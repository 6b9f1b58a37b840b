import Mathlib.Data.List.Induction
import Mathlib.Data.List.Nodup
import Mathlib.Data.List.Perm.Basic
import Mathlib.Data.String.Basic
import MarketGateway.Proofs.Json.Members
import MarketGateway.Proofs.Text.FormEncoding
import MarketGateway.Trade.Params

/-!
# Parameters as a table

Setting parameters keeps one entry for each name (`nodup_ofSettings`). So the pairs that are sorted
for signing have one order only (`eq_of_sorted_of_perm`), and the object that is sent has a member
for each present entry, with nothing replaced (`perm_members`). The line that is signed can be read
back into those pairs (`canonicalQuery_read_back`).
-/

namespace MarketGateway

namespace Trade.Params

/-! ## Names -/

variable {entries : List (String × ParamValue)} {key : String} {value : ParamValue}

theorem mem_setEntry (key : String) (value : ParamValue) (entries : List (String × ParamValue)) :
    (key, value) ∈ setEntry key value entries := by
  induction entries with
  | nil => exact List.mem_singleton_self _
  | cons entry rest ih =>
    obtain ⟨k, v⟩ := entry
    rw [setEntry]
    split
    · next hEq =>
      subst hEq
      exact List.mem_cons_self
    · exact List.mem_cons_of_mem _ ih

theorem key_of_mem_setEntry {entry : String × ParamValue}
    (hEntry : entry ∈ setEntry key value entries) : entry.1 = key ∨ entry ∈ entries := by
  induction entries with
  | nil => exact .inl (congrArg Prod.fst (List.mem_singleton.mp hEntry))
  | cons first rest ih =>
    obtain ⟨k, v⟩ := first
    rw [setEntry] at hEntry
    split at hEntry
    · next hEq =>
      rcases List.mem_cons.mp hEntry with rfl | hRest
      · exact .inl hEq
      · exact .inr (List.mem_cons_of_mem _ hRest)
    · rcases List.mem_cons.mp hEntry with rfl | hRest
      · exact .inr List.mem_cons_self
      · exact (ih hRest).imp_right (List.mem_cons_of_mem _)

theorem nodup_setEntry (hKeys : (entries.map Prod.fst).Nodup) :
    ((setEntry key value entries).map Prod.fst).Nodup := by
  induction entries with
  | nil => exact List.nodup_singleton _
  | cons entry rest ih =>
    obtain ⟨k, v⟩ := entry
    obtain ⟨hHead, hRest⟩ := List.nodup_cons.mp hKeys
    rw [setEntry]
    split
    · exact hKeys
    · next hNe =>
      refine List.nodup_cons.mpr ⟨?_, ih hRest⟩
      intro hMem
      obtain ⟨other, hOther, hEq⟩ := List.mem_map.mp hMem
      rcases key_of_mem_setEntry hOther with hKey | hOld
      · exact hNe (hEq.symm.trans hKey)
      · exact hHead (List.mem_map.mpr ⟨other, hOld, hEq⟩)

/-- What ignores a name does not see it set. -/
theorem filterMap_setEntry {α : Type} {f : String × ParamValue → Option α}
    (hIgnored : ∀ value, f (key, value) = none) :
    (setEntry key value entries).filterMap f = entries.filterMap f := by
  induction entries with
  | nil => simp [setEntry, hIgnored]
  | cons entry rest ih =>
    obtain ⟨k, v⟩ := entry
    rw [setEntry]
    split
    · next hEq =>
      subst hEq
      simp [hIgnored]
    · simp only [List.filterMap_cons, ih]

/-- Parameters with settings made one after another, later ones in place of earlier ones. -/
def ofSettings (settings : List (String × ParamValue)) : Params :=
  settings.foldl (fun params setting => params.set setting.1 setting.2) {}

theorem nodup_ofSettings (settings : List (String × ParamValue)) :
    ((ofSettings settings).entries.map Prod.fst).Nodup := by
  induction settings using List.reverseRecOn with
  | nil => exact List.nodup_nil
  | append_singleton settings setting ih =>
    rw [ofSettings, List.foldl_append]
    exact nodup_setEntry ih

/-! ## Sorted pairs -/

/-- Sorted by name. -/
def SortedByName (pairs : List (String × String)) : Prop := pairs.Pairwise fun p q => p.1 ≤ q.1

theorem insertPair_perm (pair : String × String) (pairs : List (String × String)) :
    (insertPair pair pairs).Perm (pair :: pairs) := by
  induction pairs with
  | nil => exact .refl _
  | cons p rest ih =>
    rw [insertPair]
    split
    · exact .refl _
    · exact (ih.cons p).trans (.swap _ _ _)

theorem SortedByName.insertPair {pairs : List (String × String)} (hSorted : SortedByName pairs)
    (pair : String × String) : SortedByName (insertPair pair pairs) := by
  induction pairs with
  | nil => exact List.pairwise_singleton _ _
  | cons p rest ih =>
    obtain ⟨hFirst, hRest⟩ := List.pairwise_cons.mp hSorted
    rw [Params.insertPair]
    split
    · next hLt =>
      refine List.pairwise_cons.mpr ⟨?_, hSorted⟩
      intro q hq
      rcases List.mem_cons.mp hq with rfl | hLater
      · exact hLt.le
      · exact hLt.le.trans (hFirst q hLater)
    · next hNotLt =>
      refine List.pairwise_cons.mpr ⟨?_, ih hRest⟩
      intro q hq
      rcases List.mem_cons.mp ((insertPair_perm pair rest).mem_iff.mp hq) with rfl | hLater
      · exact not_lt.mp hNotLt
      · exact hFirst q hLater

theorem sortPairs_spec (pairs : List (String × String)) :
    (sortPairs pairs).Perm pairs ∧ SortedByName (sortPairs pairs) := by
  induction pairs using List.reverseRecOn with
  | nil => exact ⟨.refl _, List.Pairwise.nil⟩
  | append_singleton pairs pair ih =>
    obtain ⟨hPerm, hSorted⟩ := ih
    have hStep : sortPairs (pairs ++ [pair]) = insertPair pair (sortPairs pairs) := by
      simp [sortPairs]
    rw [hStep]
    refine ⟨?_, hSorted.insertPair pair⟩
    calc (insertPair pair (sortPairs pairs)).Perm (pair :: sortPairs pairs) :=
          insertPair_perm pair _
      _ |>.Perm (pair :: pairs) := hPerm.cons pair
      _ |>.Perm (pairs ++ [pair]) := (List.perm_append_singleton pair pairs).symm

/-- Pairs with different names have one order by name. -/
theorem eq_of_sorted_of_perm {pairs others : List (String × String)}
    (hNames : (pairs.map Prod.fst).Nodup) (hSorted : SortedByName pairs)
    (hOthers : SortedByName others) (hPerm : pairs.Perm others) : pairs = others := by
  refine hPerm.eq_of_pairwise ?_ hSorted hOthers
  intro p q hp hq hLe hGe
  exact List.inj_on_of_nodup_map hNames hp (hPerm.mem_iff.mpr hq) (le_antisymm hLe hGe)

/-! ## What is signed and what is sent -/

/-- The pair that is signed for an entry: none for an absent value or for the signature. -/
def signedPair? (entry : String × ParamValue) : Option (String × String) :=
  if entry.1 = signatureName then none else entry.2.render.map fun rendered => (entry.1, rendered)

/-- The member that is sent for an entry: none for an absent value. -/
def sentMember? (entry : String × ParamValue) : Option (String × Json) :=
  entry.2.render.map fun rendered => (entry.1, entry.2.toJson rendered)

theorem signable_eq (params : Params) :
    params.signable = sortPairs (params.entries.filterMap signedPair?) := by
  rw [signable, flatten]
  congr 1
  induction params.entries with
  | nil => rfl
  | cons entry rest ih =>
    obtain ⟨key, value⟩ := entry
    cases hRender : value.render with
    | none => simpa [signedPair?, hRender] using ih
    | some rendered =>
      by_cases hKey : key = signatureName
      · simpa [signedPair?, hRender, hKey] using ih
      · simpa [signedPair?, hRender, hKey] using ih

theorem toJson_eq (params : Params) :
    params.toJson = .object (Json.insertAll (params.entries.filterMap sentMember?)) := by
  rw [toJson, Json.insertAll, List.foldl_filterMap]
  congr 2
  funext sent entry
  obtain ⟨key, value⟩ := entry
  cases hRender : value.render <;> simp [sentMember?, hRender]

/-- A selection of pairs that keeps their names selects different names from different ones. -/
theorem sublist_names {α β : Type} {f : String × α → Option (String × β)}
    (hName : ∀ entry pair, f entry = some pair → pair.1 = entry.1) (entries : List (String × α)) :
    ((entries.filterMap f).map Prod.fst).Sublist (entries.map Prod.fst) := by
  induction entries with
  | nil => exact .slnil
  | cons entry rest ih =>
    cases hPair : f entry with
    | none =>
      rw [List.filterMap_cons_none hPair]
      exact ih.cons _
    | some pair =>
      rw [List.filterMap_cons_some hPair, List.map_cons, List.map_cons, hName entry pair hPair]
      exact ih.cons_cons _

theorem name_of_signedPair {entry : String × ParamValue} {pair : String × String}
    (hPair : signedPair? entry = some pair) : pair.1 = entry.1 := by
  unfold signedPair? at hPair
  split at hPair
  · cases hPair
  · obtain ⟨rendered, -, rfl⟩ := Option.map_eq_some_iff.mp hPair
    rfl

theorem name_of_sentMember {entry : String × ParamValue} {member : String × Json}
    (hMember : sentMember? entry = some member) : member.1 = entry.1 := by
  obtain ⟨rendered, -, rfl⟩ := Option.map_eq_some_iff.mp hMember
  rfl

/-- No member takes the place of another one. -/
theorem perm_members (hKeys : (entries.map Prod.fst).Nodup) :
    (Json.insertAll (entries.filterMap sentMember?)).Perm (entries.filterMap sentMember?) :=
  Json.perm_insertAll ((sublist_names (fun _ _ => name_of_sentMember) entries).nodup hKeys)

/-! ## The line that is signed -/

/-- **The signed line has one reading.** Reading the line that is signed, as any form-encoded line
is read, gives exactly the pairs that are signed, whatever their names and values hold. So
parameters have the same line exactly if the same pairs of them are signed. -/
theorem canonicalQuery_read_back (params other : Params) :
    Text.FormEncoding.decode params.canonicalQuery = params.signable ∧
      (params.canonicalQuery = other.canonicalQuery ↔ params.signable = other.signable) :=
  ⟨Text.FormEncoding.decode_encode params.signable, Text.FormEncoding.encode_injective.eq_iff⟩

/-- Separators, blanks and letters beyond ASCII in a name and a value. -/
example : (({} : Params).set "a=b&" (.text "x&y=+ %é")).canonicalQuery =
    "a%3Db%26=x%26y%3D%2B+%25%C3%A9" := by
  decide +kernel

end Trade.Params

end MarketGateway
