import Mathlib.Data.List.Induction
import Mathlib.Data.List.Nodup
import Mathlib.Data.List.Perm.Basic
import Mathlib.Data.String.Basic
import MarketGateway.Json

/-!
# Members of objects

An object is put together from members one after another (`insertAll`), the later ones in place of
earlier ones with the same key. So its keys increase (`increasing_insertAll`), and under each key
stands the last value that was given for it (`lookup_insertAll`). If no two members have one key,
all of them are there (`perm_insertAll`).
-/

namespace MarketGateway.Json

theorem perm_insert {key : String} {members : List (String × Json)}
    (hNew : key ∉ members.map Prod.fst) (value : Json) :
    (insert key value members).Perm ((key, value) :: members) := by
  induction members with
  | nil => exact .refl _
  | cons member rest ih =>
    obtain ⟨other, old⟩ := member
    rw [List.map_cons, List.mem_cons, not_or] at hNew
    obtain ⟨hNe, hRest⟩ := hNew
    rw [insert, if_neg hNe]
    split
    · exact .refl _
    · exact ((ih hRest).cons _).trans (.swap _ _ _)

/-- An object with members put in one after another. -/
def insertAll (news : List (String × Json)) : List (String × Json) :=
  news.foldl (fun members member => insert member.1 member.2 members) []

theorem insertAll_snoc (news : List (String × Json)) (last : String × Json) :
    insertAll (news ++ [last]) = Json.insert last.1 last.2 (insertAll news) := by
  simp [insertAll]

/-- By induction from the end; none of the members before it has the name of the last one. -/
theorem perm_insertAll {news : List (String × Json)} (hKeys : (news.map Prod.fst).Nodup) :
    (insertAll news).Perm news := by
  induction news using List.reverseRecOn with
  | nil => exact .refl _
  | append_singleton news last ih =>
    rw [List.map_append, List.nodup_append] at hKeys
    obtain ⟨hOld, -, hApart⟩ := hKeys
    have hMembers := ih hOld
    have hNew : last.1 ∉ (insertAll news).map Prod.fst := by
      intro hMem
      have hKey := (hMembers.map Prod.fst).mem_iff.mp hMem
      exact hApart last.1 hKey last.1 List.mem_cons_self rfl
    rw [insertAll_snoc]
    calc (insert last.1 last.2 (insertAll news)).Perm (last :: insertAll news) :=
          perm_insert hNew last.2
      _ |>.Perm (last :: news) := hMembers.cons last
      _ |>.Perm (news ++ [last]) := (List.perm_append_singleton last news).symm

theorem lookup_of_mem {key : String} {value : Json} {members : List (String × Json)}
    (hKeys : (members.map Prod.fst).Nodup) (hMem : (key, value) ∈ members) :
    lookup members key = some value := by
  have hFound : members.find? (·.1 == key) ≠ none := by
    intro hNone
    have hDiffers := List.find?_eq_none.mp hNone _ hMem
    simp at hDiffers
  obtain ⟨⟨other, found⟩, hEq⟩ := Option.ne_none_iff_exists'.mp hFound
  have hKey : other = key := by simpa using List.find?_some hEq
  have hSame := List.inj_on_of_nodup_map hKeys (List.mem_of_find?_eq_some hEq) hMem hKey
  rw [lookup, hEq, hSame]
  rfl

/-! ## Later members -/

variable {key other : String} {value : Json} {members news : List (String × Json)}

/-- The keys increase, so none comes twice. -/
def Increasing (members : List (String × Json)) : Prop := members.Pairwise fun m n => m.1 < n.1

theorem Increasing.nodup (hMembers : Increasing members) : (members.map Prod.fst).Nodup := by
  rw [List.Nodup, List.pairwise_map]
  exact hMembers.imp fun hLess => ne_of_lt hLess

theorem mem_of_mem_insert {member : String × Json} (hMem : member ∈ insert key value members) :
    member = (key, value) ∨ member ∈ members := by
  induction members with
  | nil => exact .inl (List.mem_singleton.mp hMem)
  | cons first rest ih =>
    rw [insert] at hMem
    split at hMem
    · exact (List.mem_cons.mp hMem).imp_right (List.mem_cons_of_mem _)
    · split at hMem
      · exact List.mem_cons.mp hMem
      · rcases List.mem_cons.mp hMem with rfl | hRest
        · exact .inr List.mem_cons_self
        · exact (ih hRest).imp_right (List.mem_cons_of_mem _)

theorem Increasing.insert (hMembers : Increasing members) (key : String) (value : Json) :
    Increasing (insert key value members) := by
  induction members with
  | nil => exact List.pairwise_singleton _ _
  | cons first rest ih =>
    obtain ⟨hFirst, hRest⟩ := List.pairwise_cons.mp hMembers
    rw [Json.insert]
    split
    · next hSame =>
      subst hSame
      exact List.pairwise_cons.mpr ⟨hFirst, hRest⟩
    · next hNe =>
      split
      · next hLess =>
        refine List.pairwise_cons.mpr ⟨?_, hMembers⟩
        intro member hMem
        rcases List.mem_cons.mp hMem with rfl | hLater
        · exact hLess
        · exact lt_trans hLess (hFirst member hLater)
      · next hLess =>
        refine List.pairwise_cons.mpr ⟨?_, ih hRest⟩
        intro member hMem
        rcases mem_of_mem_insert hMem with rfl | hLater
        · exact lt_of_le_of_ne (not_lt.mp hLess) (Ne.symm hNe)
        · exact hFirst member hLater

theorem increasing_insertAll (news : List (String × Json)) : Increasing (insertAll news) := by
  induction news using List.reverseRecOn with
  | nil => exact .nil
  | append_singleton news last ih =>
    rw [insertAll_snoc]
    exact ih.insert last.1 last.2

theorem lookup_cons (member : String × Json) (members : List (String × Json)) (key : String) :
    lookup (member :: members) key =
      if member.1 = key then some member.2 else lookup members key := by
  by_cases hSame : member.1 = key <;> simp [lookup, hSame]

theorem lookup_of_not_mem (hAbsent : key ∉ members.map Prod.fst) : lookup members key = none := by
  have hNone : members.find? (·.1 == key) = none := by
    refine List.find?_eq_none.mpr ?_
    intro member hMember hSame
    exact hAbsent (List.mem_map.mpr ⟨member, hMember, by simpa using hSame⟩)
  rw [lookup, hNone]
  rfl

theorem lookup_insert (key other : String) (value : Json) (members : List (String × Json)) :
    lookup (insert key value members) other =
      if key = other then some value else lookup members other := by
  induction members with
  | nil => rw [Json.insert, lookup_cons]
  | cons first rest ih =>
    rw [Json.insert]
    split
    · next hSame =>
      subst hSame
      rw [lookup_cons, lookup_cons]
      split <;> rfl
    · next hNe =>
      split
      · rw [lookup_cons]
      · rw [lookup_cons, lookup_cons, ih]
        split
        · next hFirst =>
          rw [if_neg]
          rintro rfl
          exact hNe hFirst.symm
        · rfl

/-- A value stays under its key if every later one under it is the same. -/
theorem lookup_insertAll (hMem : (key, value) ∈ news)
    (hOnly : ∀ member ∈ news, member.1 = key → member.2 = value) :
    lookup (insertAll news) key = some value := by
  induction news using List.reverseRecOn with
  | nil => cases hMem
  | append_singleton news last ih =>
    rw [insertAll_snoc, lookup_insert]
    split
    · next hLast => rw [hOnly last (by simp) hLast]
    · next hLast =>
      refine ih ?_ fun member hBefore => hOnly member (List.mem_append_left _ hBefore)
      rcases List.mem_append.mp hMem with hBefore | hHere
      · exact hBefore
      · rw [← List.mem_singleton.mp hHere] at hLast
        exact absurd rfl hLast

end MarketGateway.Json
