import MarketGateway.Proofs.Binary64.Rounding
import MarketGateway.Proofs.Feed.Restarts

/-!
# How delays grow

A backoff is asked for delays and starts over in between (`Backoff.run`). With a multiplier of at
least one and no random part the delays between two resets do not fall, up to two exceptions
(`delays_grow`). The growing delay is counted in whole milliseconds, so the second delay lacks the
fraction of a millisecond that the first one had; and a product that overflows the doubles counts
as zero.

What carries this is that a whole number below `2 ^ 53` is a double, and rounding the product does
not pass it (`grow_cases`). A policy with one delay for all times multiplies by one, and the double
nearest to its whole milliseconds stays where it is (`nearest_nearest`).
-/

namespace MarketGateway

namespace Binary64

variable {n k units : Nat}

/-- The binary digits of the whole part of a finite double, at most. -/
def wholeDigits : Nat := 1024

theorem overflow_eq : overflow = 2 ^ wholeDigits * one := by decide +kernel

/-- The whole number that is the double nearest to a natural number. -/
def nearest (n : Nat) : Nat := roundUnits (n * one) 1 / one

theorem nearest_mul_one (n : Nat) : nearest n * one = roundUnits (n * one) 1 :=
  Nat.div_mul_cancel (one_dvd_roundUnits n)

theorem nearest_of_lt (hSmall : n < 2 ^ 53) : nearest n = n := by
  have hExact := roundUnits_of_representable Nat.one_pos (representable_mul_one hSmall)
  rw [Nat.mul_one] at hExact
  rw [nearest, hExact, Nat.mul_div_cancel _ one_units_pos]

/-- The double nearest to a double is that double. -/
theorem nearest_nearest (n : Nat) : nearest (nearest n) = nearest n := by
  have hRounded : Representable (roundUnits (n * one) 1) := representable_roundUnits Nat.one_pos
  have hAgain := roundUnits_of_representable Nat.one_pos hRounded
  rw [Nat.mul_one] at hAgain
  rw [nearest, nearest_mul_one, hAgain, ← nearest]

theorem nearest_le (hLe : n ≤ 2 ^ k) : nearest n ≤ 2 ^ k := by
  have hPower : Representable (2 ^ k * one) := by
    rw [one_eq, ← Nat.pow_add]
    exact representable_two_pow _
  refine Nat.le_of_mul_le_mul_right ?_ one_units_pos
  rw [nearest_mul_one]
  exact roundUnits_le Nat.one_pos hPower (by simpa using Nat.mul_le_mul_right one hLe)

theorem ofNat_eq (hLe : n ≤ 2 ^ k) (hRange : k < wholeDigits) :
    ofNat n = finite false (nearest n * one) := by
  have hBelow : ¬ overflow ≤ roundUnits (n * one) 1 := by
    rw [← nearest_mul_one, overflow_eq, Nat.not_le]
    refine Nat.mul_lt_mul_of_pos_right ?_ one_units_pos
    exact Nat.lt_of_le_of_lt (nearest_le hLe) (Nat.pow_lt_pow_right (by decide) hRange)
  rw [ofNat, ofUnits, nearest_mul_one]
  exact if_neg hBelow

theorem ofNat_eq_of_lt (hSmall : n < 2 ^ 53) : ofNat n = finite false (n * one) := by
  rw [ofNat_eq (Nat.le_of_lt hSmall) (by decide), nearest_of_lt hSmall]

theorem mul_finite (units others : Nat) :
    (finite false units).mul (finite false others) = ofUnits false (units * others) one := rfl

theorem mul_infinite (hUnits : units ≠ 0) :
    (finite false units).mul (infinite false) = infinite false := if_neg hUnits

/-- Multiplied by one a number stays as it is. -/
theorem ofNat_mul_one (hLe : n ≤ 2 ^ k) (hRange : k < wholeDigits) :
    (ofNat n).mul (ofNat 1) = ofNat n := by
  have hRounded : Representable (roundUnits (n * one) 1) := representable_roundUnits Nat.one_pos
  have hExact := roundUnits_of_representable one_units_pos hRounded
  rw [ofNat_eq hLe hRange, ofNat_eq_of_lt (by decide), mul_finite, Nat.one_mul,
    ← ofNat_eq hLe hRange, ofNat, ofUnits, ofUnits, nearest_mul_one, hExact]

theorem ofUnits_cases (negative : Bool) (num den : Nat) :
    ofUnits negative num den = infinite negative ∨
      ofUnits negative num den = finite negative (roundUnits num den) := by
  unfold ofUnits
  dsimp only
  split
  · exact .inl rfl
  · exact .inr rfl

end Binary64

namespace ReconnectPolicy

open Binary64

variable {policy : ReconnectPolicy} {delay : Duration} {units : Nat}

/-- The milliseconds of a delay times the multiplier. -/
def product (policy : ReconnectPolicy) (delay : Duration) : Binary64 :=
  (Binary64.ofNat delay.millis).mul policy.multiplier

theorem millis_ofMillis (n : Nat) : (Duration.ofMillis n).millis = n :=
  Nat.mul_div_cancel n (by decide)

theorem ofMillis_millis_le (delay : Duration) : Duration.ofMillis delay.millis ≤ delay :=
  Nat.div_mul_le_self delay 1000000

theorem ofMillis_mono {fewer more : Nat} (hLe : fewer ≤ more) :
    Duration.ofMillis fewer ≤ Duration.ofMillis more := Nat.mul_le_mul_right 1000000 hLe

theorem millis_lt_of_lt {n : Nat} (hLt : delay < .ofMillis n) : delay.millis < n :=
  Nat.div_lt_of_lt_mul (by rwa [Nat.mul_comm])

theorem millis_min (delay bound : Duration) :
    Duration.millis (min delay bound) = min delay.millis bound.millis :=
  Monotone.map_min fun _ _ hLe => Nat.div_le_div_right hLe

/-- A grown delay is a whole number of milliseconds, and no more than the bound has. -/
theorem grow_whole (policy : ReconnectPolicy) (delay : Duration) :
    ∃ n, policy.grow delay = .ofMillis n ∧ n ≤ policy.maxDelay.millis := by
  unfold grow
  exact ⟨_, rfl, Nat.le_trans (Nat.min_le_left _ _) (Nat.min_le_right _ _)⟩

theorem grow_le (policy : ReconnectPolicy) (delay : Duration) :
    policy.grow delay ≤ policy.maxDelay := by
  obtain ⟨n, hGrow, hLe⟩ := grow_whole policy delay
  rw [hGrow]
  exact Nat.le_trans (ofMillis_mono hLe) (ofMillis_millis_le _)

theorem grow_of_finite (hProduct : policy.product delay = .finite false units) :
    policy.grow delay = .ofMillis (min (min (min ((2 * units + one) / (2 * one))
      (Nat.pow 2 128 - 1)) policy.maxDelay.millis) (Nat.pow 2 64 - 1)) := by
  have hScaled : (policy.product delay).roundHalfAway =
      .finite false ((2 * units + one) / (2 * one) * one) := by
    rw [hProduct]
    rfl
  unfold grow
  rw [← product, hScaled]
  simp only [Binary64.toNat, Nat.mul_div_cancel _ one_units_pos, Bool.false_eq_true, if_false]

theorem grow_of_infinite (hProduct : policy.product delay = .infinite false) :
    policy.grow delay = 0 := by
  unfold grow
  rw [← product, hProduct]
  simp [roundHalfAway, Duration.ofMillis]

/-- Delays that are multiplied by at least one, without a random part, and lie within the whole
numbers of milliseconds that are doubles. -/
structure Growing (policy : ReconnectPolicy) : Prop where
  multiplier : policy.multiplier = .ofNat 1 ∨ (Binary64.ofNat 1).lt policy.multiplier = true
  jitter : policy.jitter.nonPositive = true
  initial : policy.initialDelay < .ofMillis (Nat.pow 2 53)
  max : policy.maxDelay < .ofMillis (Nat.pow 2 53)

theorem Growing.multiplier_cases (hGrowing : policy.Growing) :
    policy.multiplier = .infinite false ∨
      ∃ units, policy.multiplier = .finite false units ∧ one ≤ units := by
  have hOne : Binary64.ofNat 1 = .finite false one := by
    rw [ofNat_eq_of_lt (by decide), Nat.one_mul]
  rcases hGrowing.multiplier with hSame | hMore
  · exact .inr ⟨one, hSame.trans hOne, Nat.le_refl _⟩
  · rw [hOne] at hMore
    cases hMultiplier : policy.multiplier with
    | nan => simp [hMultiplier, lt] at hMore
    | infinite negative =>
      cases negative with
      | false => exact .inl rfl
      | true => simp [hMultiplier, lt] at hMore
    | finite negative units =>
      simp only [hMultiplier, lt, signedUnits, decide_eq_true_eq, Bool.false_eq_true, if_false]
        at hMore
      cases negative with
      | false =>
        simp only [Bool.false_eq_true, if_false] at hMore
        exact .inr ⟨units, rfl, Int.ofNat_le.mp (Int.le_of_lt hMore)⟩
      | true =>
        have hPositive : 0 < one := one_units_pos
        simp only [if_true] at hMore
        omega

/-- The product of a whole number below `2 ^ 53` is no less, or it overflows. -/
theorem Growing.product_cases (hGrowing : policy.Growing) (hSmall : delay.millis < 2 ^ 53) :
    delay.millis = 0 ∨ policy.product delay = .infinite false ∨
      ∃ units, policy.product delay = .finite false units ∧ delay.millis * one ≤ units := by
  have hExact := ofNat_eq_of_lt hSmall
  rcases hGrowing.multiplier_cases with hMultiplier | ⟨units, hMultiplier, hLe⟩
  · by_cases hZero : delay.millis = 0
    · exact .inl hZero
    · have hUnits : delay.millis * one ≠ 0 := Nat.mul_ne_zero hZero one_units_pos.ne'
      refine .inr (.inl ?_)
      rw [product, hExact, hMultiplier, mul_infinite hUnits]
  · refine .inr ?_
    have hAbove : delay.millis * one ≤ roundUnits (delay.millis * one * units) one := by
      refine le_roundUnits one_units_pos (representable_mul_one hSmall) ?_
      exact Nat.mul_le_mul_left _ hLe
    rw [product, hExact, hMultiplier, mul_finite]
    rcases ofUnits_cases false (delay.millis * one * units) one with hInfinite | hFinite
    · exact .inl hInfinite
    · exact .inr ⟨_, hFinite, hAbove⟩

/-- A delay does not shrink, but for its fraction of a millisecond, unless its product overflows. -/
theorem Growing.grow_cases (hGrowing : policy.Growing) (hSmall : delay.millis < 2 ^ 53) :
    (policy.product delay = .infinite false ∧ policy.grow delay = 0) ∨
      Duration.ofMillis (min delay.millis policy.maxDelay.millis) ≤ policy.grow delay := by
  rcases hGrowing.product_cases hSmall with hZero | hInfinite | ⟨units, hFinite, hLe⟩
  · rw [hZero, Nat.zero_min]
    exact .inr (Nat.zero_le _)
  · exact .inl ⟨hInfinite, grow_of_infinite hInfinite⟩
  · have hRounded : delay.millis ≤ (2 * units + one) / (2 * one) := by
      rw [Nat.le_div_iff_mul_le (Nat.mul_pos (by decide) one_units_pos)]
      calc delay.millis * (2 * one) = 2 * (delay.millis * one) := by ring
        _ ≤ 2 * units := Nat.mul_le_mul_left 2 hLe
        _ ≤ 2 * units + one := Nat.le_add_right _ _
    have hMax := millis_lt_of_lt hGrowing.max
    have hPowers : Nat.pow 2 53 ≤ Nat.pow 2 64 - 1 ∧ 2 ^ 53 ≤ Nat.pow 2 128 - 1 := by decide
    rw [grow_of_finite hFinite]
    refine .inr (ofMillis_mono ?_)
    generalize (2 * units + one) / (2 * one) = rounded at hRounded ⊢
    omega

/-! ## One delay for all times -/

/-- The whole milliseconds that are left of a delay when it is multiplied by one and bounded by
itself. -/
def held (millis : Nat) : Nat := min (min (nearest millis) millis) (Nat.pow 2 64 - 1)

theorem held_of_lt {millis : Nat} (hSmall : millis < 2 ^ 53) : held millis = millis := by
  have hPower : 2 ^ 53 ≤ Nat.pow 2 64 - 1 := by decide
  rw [held, nearest_of_lt hSmall]
  omega

theorem held_le (millis : Nat) : held millis ≤ millis :=
  Nat.le_trans (Nat.min_le_left _ _) (Nat.min_le_right _ _)

/-- What is left stays. -/
theorem min_nearest_held (millis : Nat) :
    min (min (nearest (held millis)) millis) (Nat.pow 2 64 - 1) = held millis := by
  have hSame {n : Nat} (hNearest : nearest n = nearest millis) :
      min (min (nearest n) millis) (Nat.pow 2 64 - 1) = held millis := by rw [hNearest, held]
  have hHeld : held millis = Nat.pow 2 64 - 1 ∨ held millis = millis ∨
      held millis = nearest millis := by
    unfold held
    omega
  rcases hHeld with hFull | hAll | hNearest
  · have hUp : nearest (Nat.pow 2 64 - 1) = Nat.pow 2 64 := by decide +kernel
    have hLe := held_le millis
    rw [hFull] at hLe ⊢
    rw [hUp]
    omega
  · exact hSame (congrArg nearest hAll)
  · exact hSame ((congrArg nearest hNearest).trans (nearest_nearest millis))

theorem round_whole (n : Nat) : (2 * (n * one) + one) / (2 * one) = n := by
  refine Nat.div_eq_of_lt_le ?_ ?_
  · calc n * (2 * one) = 2 * (n * one) := by ring
      _ ≤ 2 * (n * one) + one := Nat.le_add_right _ _
  · calc 2 * (n * one) + one < 2 * (n * one) + (one + one) :=
          Nat.add_lt_add_left (Nat.lt_add_of_pos_left one_units_pos) _
      _ = (n + 1) * (2 * one) := by ring

theorem grow_immediate {bound : Duration} (hLe : delay.millis ≤ 2 ^ 74) :
    (immediate bound).grow delay =
      .ofMillis (min (min (nearest delay.millis) bound.millis) (Nat.pow 2 64 - 1)) := by
  have hProduct : (immediate bound).product delay =
      .finite false (nearest delay.millis * one) := by
    simp only [product, immediate]
    rw [ofNat_mul_one hLe (by decide), ofNat_eq hLe (by decide)]
  have hWide : min (nearest delay.millis) (Nat.pow 2 128 - 1) = nearest delay.millis :=
    Nat.min_eq_left (Nat.le_trans (nearest_le hLe) (by decide))
  rw [grow_of_finite hProduct, round_whole, hWide, immediate]

/-- By induction on the number of times: after the first time nothing changes. -/
theorem iterate_grow_immediate (hRange : delay.millis ≤ 2 ^ 74) (k : Nat) :
    (immediate delay).grow^[k + 1] delay = .ofMillis (held delay.millis) := by
  induction k with
  | zero => rw [Nat.zero_add, Function.iterate_one, grow_immediate hRange, held]
  | succ k ih =>
    have hWhole := millis_ofMillis (held delay.millis)
    have hLe := Nat.le_trans (held_le delay.millis) hRange
    rw [Function.iterate_succ_apply', ih, grow_immediate (by rwa [hWhole]), hWhole,
      min_nearest_held]

end ReconnectPolicy

/-! ## Delays that are asked for -/

namespace Backoff

/-- What a backoff is called for. -/
inductive Call
  | next
  | reset
  deriving DecidableEq

variable {policy : ReconnectPolicy} {calls : List Call}

/-- The backoff after a call. -/
def answer (backoff : Backoff) : Call → Backoff
  | .next =>
    match backoff.next with
    | some (_, after) => after
    | none => backoff
  | .reset => backoff.reset

/-- A new backoff after some calls. -/
def run (policy : ReconnectPolicy) (calls : List Call) : Backoff := calls.foldl answer (new policy)

/-- How often a delay was asked for since the last reset. -/
def asked (calls : List Call) : Nat :=
  calls.foldl (fun count call => if call = .next then count + 1 else 0) 0

/-- The delay that is given when one is asked for. -/
def delay? (backoff : Backoff) : Option Duration := backoff.next.map Prod.fst

theorem run_snoc (policy : ReconnectPolicy) (calls : List Call) (call : Call) :
    run policy (calls ++ [call]) = (run policy calls).answer call := List.foldl_append

@[simp] theorem asked_snoc_next (calls : List Call) :
    asked (calls ++ [.next]) = asked calls + 1 := by
  simp [asked]

@[simp] theorem asked_snoc_reset (calls : List Call) : asked (calls ++ [.reset]) = 0 := by
  simp [asked]

theorem policy_run (policy : ReconnectPolicy) (calls : List Call) :
    (run policy calls).policy = policy := by
  induction calls using List.reverseRecOn with
  | nil => rfl
  | append_singleton calls call ih =>
    rw [run_snoc]
    cases call with
    | reset => exact ih
    | next =>
      unfold answer
      dsimp only
      split
      · next hNext => exact (policy_of_ask (next_eq_some_iff.mp hNext)).trans ih
      · exact ih

/-- By induction on the calls: as long as attempts are left, each call takes one. -/
theorem run_eq_after (hJitter : policy.jitter.nonPositive = true)
    (hAllowed : policy.maxAttempts = 0 ∨ asked calls < policy.maxAttempts) :
    run policy calls = after policy (asked calls) := by
  induction calls using List.reverseRecOn with
  | nil => rfl
  | append_singleton calls call ih =>
    rw [run_snoc]
    cases call with
    | reset =>
      rw [asked_snoc_reset, answer, reset, policy_run]
      rfl
    | next =>
      rw [asked_snoc_next] at hAllowed ⊢
      rw [ih (by omega), answer, next_after hJitter (by omega)]

theorem delay?_run (hJitter : policy.jitter.nonPositive = true)
    (hAllowed : policy.maxAttempts = 0 ∨ asked calls < policy.maxAttempts) :
    (run policy calls).delay? = some (plainDelay policy (asked calls)) := by
  rw [run_eq_after hJitter hAllowed, delay?, next_after hJitter hAllowed]
  rfl

/-! ## One delay and the next -/

theorem plainDelay_zero (policy : ReconnectPolicy) :
    plainDelay policy 0 = min policy.initialDelay policy.maxDelay := rfl

theorem plainDelay_le (policy : ReconnectPolicy) (k : Nat) :
    plainDelay policy k ≤ policy.maxDelay := Nat.min_le_right _ _

/-- From the second on the delays are whole numbers of milliseconds below the bound. -/
theorem plainDelay_succ (policy : ReconnectPolicy) (k : Nat) :
    plainDelay policy (k + 1) = policy.grow^[k + 1] policy.initialDelay ∧
      plainDelay policy (k + 1) % .ofMillis 1 = 0 := by
  have hGrown : policy.grow^[k + 1] policy.initialDelay =
      policy.grow (policy.grow^[k] policy.initialDelay) := Function.iterate_succ_apply' _ _ _
  have hSame : plainDelay policy (k + 1) = policy.grow^[k + 1] policy.initialDelay := by
    rw [plainDelay, hGrown]
    exact Nat.min_eq_left (policy.grow_le _)
  refine ⟨hSame, ?_⟩
  obtain ⟨n, hWhole, -⟩ := policy.grow_whole (policy.grow^[k] policy.initialDelay)
  rw [hSame, hGrown, hWhole]
  exact Nat.mul_mod_left n 1000000

theorem ofMillis_millis_of_whole {delay : Duration} (hWhole : delay % .ofMillis 1 = 0) :
    Duration.ofMillis delay.millis = delay :=
  Nat.div_mul_cancel (Nat.dvd_of_mod_eq_zero hWhole)

theorem millis_iterate_lt (hGrowing : policy.Growing) (k : Nat) :
    Duration.millis (policy.grow^[k] policy.initialDelay) < 2 ^ 53 := by
  cases k with
  | zero => exact ReconnectPolicy.millis_lt_of_lt hGrowing.initial
  | succ k =>
    rw [Function.iterate_succ_apply']
    exact ReconnectPolicy.millis_lt_of_lt (Nat.lt_of_le_of_lt (policy.grow_le _) hGrowing.max)

/-- What the delay after the last one can be, when the backoff is the one that gave the last. -/
inductive Follows (backoff : Backoff) (last delay : Duration) : Prop
  | grows (hLe : last ≤ delay)
  /-- Of the first delay a fraction of a millisecond is lost. -/
  | cut (hFirst : backoff.attempts = 0) (hFraction : last % .ofMillis 1 ≠ 0)
      (hLe : Duration.ofMillis last.millis ≤ delay)
  /-- The product is beyond the doubles, and counts as zero. -/
  | overflows (hProduct : backoff.policy.product backoff.current = .infinite false)
      (hZero : delay = 0)

theorem follows_plainDelay (hGrowing : policy.Growing) (k : Nat) :
    Follows (after policy k) (plainDelay policy k) (plainDelay policy (k + 1)) := by
  have hNext : plainDelay policy (k + 1) =
      policy.grow (policy.grow^[k] policy.initialDelay) := by
    rw [(plainDelay_succ policy k).1, Function.iterate_succ_apply']
  rcases hGrowing.grow_cases (millis_iterate_lt hGrowing k) with ⟨hProduct, hZero⟩ | hLe
  · exact .overflows hProduct (hNext.trans hZero)
  · have hMillis : Duration.ofMillis (plainDelay policy k).millis ≤ plainDelay policy (k + 1) := by
      rw [hNext, plainDelay, ReconnectPolicy.millis_min]
      exact hLe
    by_cases hWhole : plainDelay policy k % .ofMillis 1 = 0
    · exact .grows (by rwa [ofMillis_millis_of_whole hWhole] at hMillis)
    · cases k with
      | zero => exact .cut rfl hWhole hMillis
      | succ k => exact absurd (plainDelay_succ policy k).2 hWhole

theorem plainDelay_immediate {delay : Duration} (hRange : delay < .ofSecs (Nat.pow 2 64))
    (k : Nat) :
    plainDelay (.immediate delay) k =
      if k = 0 then delay else .ofMillis (ReconnectPolicy.held delay.millis) := by
  cases k with
  | zero => exact Nat.min_self delay
  | succ k =>
    have hMillis : delay.millis ≤ 2 ^ 74 := by
      have hPower : Nat.pow 2 64 * 1000000000 ≤ 2 ^ 74 * 1000000 := by decide
      exact Nat.div_le_of_le_mul (by
        rw [Nat.mul_comm]
        exact Nat.le_of_lt (Nat.lt_of_lt_of_le hRange hPower))
    rw [(plainDelay_succ _ k).1, if_neg (Nat.succ_ne_zero k)]
    exact ReconnectPolicy.iterate_grow_immediate hMillis k

/-- **Delays grow, but for fractions and overflows.** With a multiplier of at least one, no random
part and durations below `2 ^ 53` milliseconds, whatever was asked of a backoff: while attempts are
left it gives a delay, which is no longer than the bound and after a start or a reset the initial
one under that bound. A delay that follows on another one is at least as long, with two exceptions:
the second delay may lack what the first one had beyond whole milliseconds, and it is zero when the
product with the multiplier is beyond the doubles.

So a policy with one delay for all times gives that delay first, and its whole milliseconds from
then on, as far as they are a double: all of them below `2 ^ 53`. -/
theorem delays_grow (hGrowing : policy.Growing) (calls : List Call)
    (hAllowed : policy.maxAttempts = 0 ∨ asked calls < policy.maxAttempts) :
    (∃ delay, (run policy calls).delay? = some delay ∧ delay ≤ policy.maxDelay ∧
      (asked calls = 0 → delay = min policy.initialDelay policy.maxDelay) ∧
      ∀ before, calls = before ++ [.next] →
        ∃ last, (run policy before).delay? = some last ∧
          Follows (run policy before) last delay) ∧
    ∀ delay < Duration.ofSecs (Nat.pow 2 64), ∀ calls : List Call,
      (run (.immediate delay) calls).delay? = some (if asked calls = 0 then delay
        else .ofMillis (ReconnectPolicy.held delay.millis)) ∧
      (delay.millis < Nat.pow 2 53 → ReconnectPolicy.held delay.millis = delay.millis) := by
  refine ⟨⟨_, delay?_run hGrowing.jitter hAllowed, plainDelay_le _ _, ?_, ?_⟩, ?_⟩
  · intro hFirst
    rw [hFirst, plainDelay_zero]
  · rintro before rfl
    rw [asked_snoc_next] at hAllowed ⊢
    have hBefore : policy.maxAttempts = 0 ∨ asked before < policy.maxAttempts := by omega
    refine ⟨_, delay?_run hGrowing.jitter hBefore, ?_⟩
    rw [run_eq_after hGrowing.jitter hBefore]
    exact follows_plainDelay hGrowing (asked before)
  · intro delay hRange calls
    refine ⟨?_, ReconnectPolicy.held_of_lt⟩
    rw [delay?_run (by rfl) (.inl rfl), plainDelay_immediate hRange]

/-- Three times as long each time, from a delay with a fraction of a millisecond. -/
def tripling : ReconnectPolicy where
  initialDelay := .ofMicros 1500
  maxDelay := .ofSecs 1
  multiplier := .ofNat 3
  jitter := .zero
  maxAttempts := 3

theorem growing_tripling : tripling.Growing where
  multiplier := .inr (by decide +kernel)
  jitter := rfl
  initial := by decide
  max := by decide

/-- The second delay has lost the fraction and is three milliseconds, the third one nine. -/
theorem delays_grow_of_tripling :
    tripling.Growing ∧ asked [.next, .reset, .next, .next] < tripling.maxAttempts ∧
      ∃ last delay, last = .ofMillis 3 ∧ delay = .ofMillis 9 ∧
        (run tripling [.next, .reset, .next]).delay? = some last ∧
        (run tripling [.next, .reset, .next, .next]).delay? = some delay ∧
        Follows (run tripling [.next, .reset, .next]) last delay := by
  have hAllowed : asked [.next, .reset, .next, .next] < tripling.maxAttempts := by decide
  obtain ⟨delay, hDelay, -, -, hFollows⟩ :=
    (delays_grow growing_tripling [.next, .reset, .next, .next] (.inr hAllowed)).1
  obtain ⟨last, hLast, hNext⟩ := hFollows [.next, .reset, .next] rfl
  have hThree : (run tripling [.next, .reset, .next]).delay? = some (.ofMillis 3) := by
    decide +kernel
  have hNine : (run tripling [.next, .reset, .next, .next]).delay? = some (.ofMillis 9) := by
    decide +kernel
  exact ⟨growing_tripling, hAllowed, last, delay, Option.some.inj (hLast.symm.trans hThree),
    Option.some.inj (hDelay.symm.trans hNine), hLast, hDelay, hNext⟩

/-- A delay that is to stay loses half a millisecond, and one that is to grow far becomes zero. -/
theorem fractions_lost_and_overflows_zero :
    let constant : ReconnectPolicy := .immediate (.ofMicros 1500)
    let steep : ReconnectPolicy :=
      ⟨.ofSecs 1, .ofSecs 120, .ofDecimal false 1 308, .zero, 0⟩
    (constant.Growing ∧ (run constant []).delay? = some (.ofMicros 1500) ∧
      (run constant [.next]).delay? = some (.ofMicros 1000)) ∧
    (steep.Growing ∧ (run steep []).delay? = some (.ofSecs 1) ∧
      (run steep [.next]).delay? = some 0) := by
  intro constant steep
  have hConstant : constant.Growing :=
    ⟨by simp only [constant, ReconnectPolicy.immediate, true_or], rfl, by decide, by decide⟩
  have hSteep : steep.Growing := ⟨.inr (by decide +kernel), rfl, by decide, by decide⟩
  exact ⟨⟨hConstant, by decide +kernel, by decide +kernel⟩,
    ⟨hSteep, by decide +kernel, by decide +kernel⟩⟩

end Backoff

end MarketGateway
