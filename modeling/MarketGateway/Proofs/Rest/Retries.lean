import MarketGateway.Rest.Client

/-!
# When a request is sent again

Whether a request is sent again is decided on the failure that its last outcome was classified as.
`Outcome.IsTransient` says the same of the outcome itself: nothing came back, or a status of 500 to
599 whose body is no error of the exchange's own (`isRetryable_iff`). `Attempts.Lawful` says how
often a request is sent, how long is waited in between and what is returned, and
`Request.run_lawful` says it of every request, under every policy and whatever comes back.

A failure of the server that explains itself ends the request: `busy_server_ends_read` is a read
that is sent once although the exchange answers with status 503 and two more sends are allowed.
-/

namespace MarketGateway

/-- The wait after the `n`-th failure, counted from zero. -/
def RetryPolicy.wait (policy : RetryPolicy) : Nat → Duration
  | 0 => policy.initialBackoff
  | n + 1 => min (policy.wait n * 2) policy.maxBackoff

namespace Rest

/-- Whether a body is an error of the exchange's own. -/
def Response.Explains (response : Response) : Prop :=
  ∃ error, Json.readAll ExchangeError.form.read response.body = .ok error

/-- Nothing came back, or the server failed and did not say why. -/
def Outcome.IsTransient : Outcome → Prop
  | lost => True
  | answered response =>
    (500 ≤ response.status ∧ response.status ≤ 599) ∧ ¬ response.Explains

theorem Response.outcome_of_serverError {response : Response} (hLow : 500 ≤ response.status)
    (hHigh : response.status ≤ 599) :
    response.outcome = match Json.readAll ExchangeError.form.read response.body with
      | .ok error => .error (.exchange response.status error)
      | .error _ => .error (.http response.status response.body) := by
  have hFailed : ¬ response.isSuccess = true := by
    simp only [isSuccess, Bool.and_eq_true, decide_eq_true_eq]
    omega
  have hNotLimited : ¬ (response.status = 429 ∨ response.status = 418) := by omega
  unfold outcome
  exact (if_neg hFailed).trans (if_neg hNotLimited)

/-- A failure of the network is no reading of a response, and a failure by status bears the status
of the response. -/
theorem Response.outcome_cases (response : Response) :
    response.outcome ≠ .error .network ∧
      ∀ status body, response.outcome = .error (.http status body) →
        status = response.status ∧ ¬ response.Explains := by
  unfold outcome
  split
  · split
    · simp
    · split <;> simp
  · split
    · simp
    · split
      · simp
      · next fault hBody =>
        refine ⟨by simp, ?_⟩
        rintro status body ⟨⟩
        refine ⟨rfl, ?_⟩
        rintro ⟨error, hError⟩
        cases hBody.symm.trans hError

/-- The failure that an outcome is classified as calls for another send exactly if the method reads
and the outcome is transient. -/
theorem isRetryable_iff (method : HttpMethod) (outcome : Outcome) :
    isRetryable method outcome.result = true ↔ method = .get ∧ outcome.IsTransient := by
  cases outcome with
  | lost => simp [Outcome.result, isRetryable, Outcome.IsTransient]
  | answered response =>
    rw [Outcome.result, Outcome.IsTransient]
    constructor
    · intro hAgain
      obtain ⟨hNetwork, hHttp⟩ := response.outcome_cases
      unfold isRetryable at hAgain
      split at hAgain
      · next hLost => exact absurd hLost hNetwork
      · next status body hStatus =>
        obtain ⟨rfl, hSilent⟩ := hHttp status body hStatus
        simp only [Bool.and_eq_true, decide_eq_true_eq] at hAgain
        exact ⟨hAgain.1.1, ⟨hAgain.1.2, hAgain.2⟩, hSilent⟩
      · cases hAgain
    · rintro ⟨rfl, ⟨hLow, hHigh⟩, hSilent⟩
      rw [Response.outcome_of_serverError hLow hHigh]
      split
      · next error hBody => exact absurd ⟨error, hBody⟩ hSilent
      · simp [isRetryable, hLow, hHigh]

/-! ## All sends of a request -/

variable {policy : RetryPolicy} {method : HttpMethod} {remote : Nat → Outcome}

/-- What a request comes to when its sends have these outcomes. -/
structure Attempts.Lawful (policy : RetryPolicy) (method : HttpMethod) (remote : Nat → Outcome)
    (attempts : Attempts) : Prop where
  sent : 0 < attempts.sends
  /-- After any send there is another one exactly for a read with a transient outcome, as long as
  the policy allows one. -/
  again {n : Nat} (hSent : n < attempts.sends) :
    n + 1 < attempts.sends ↔
      method = .get ∧ (remote n).IsTransient ∧ n + 1 < policy.maxAttempts
  once : method ≠ .get → attempts.sends = 1
  waits : attempts.waits = (List.range (attempts.sends - 1)).map policy.wait
  result : attempts.result = (remote (attempts.sends - 1)).result

/-- What is left of a request at its `n`-th send, counted from zero, when `more` may follow. -/
structure Attempts.Goes (policy : RetryPolicy) (method : HttpMethod) (remote : Nat → Outcome)
    (more n : Nat) (attempts : Attempts) : Prop where
  sent : n < attempts.sends
  again {k : Nat} (hFrom : n ≤ k) (hSent : k < attempts.sends) :
    k + 1 < attempts.sends ↔ (method = .get ∧ (remote k).IsTransient) ∧ k < n + more
  waits : attempts.waits = (List.range' n (attempts.sends - 1 - n)).map policy.wait
  result : attempts.result = (remote (attempts.sends - 1)).result

theorem goes_last {more n : Nat}
    (hLast : ¬ ((method = .get ∧ (remote n).IsTransient) ∧ n < n + more)) :
    Attempts.Goes policy method remote more n ⟨n + 1, [], (remote n).result⟩ where
  sent := Nat.lt_succ_self n
  again {k} hFrom hSent := by
    obtain rfl : k = n := Nat.le_antisymm (Nat.le_of_lt_succ hSent) hFrom
    exact iff_of_false (Nat.lt_irrefl _) hLast
  waits := by simp
  result := rfl

/-- By induction on the sends that may follow; the backoff is always the wait that is due. -/
theorem goes_sendFrom (policy : RetryPolicy) (method : HttpMethod) (remote : Nat → Outcome)
    (more n : Nat) :
    (sendFrom policy method remote more n (policy.wait n)).Goes policy method remote more n := by
  induction more generalizing n with
  | zero => exact goes_last (fun h => Nat.lt_irrefl _ h.2)
  | succ more ih =>
    rw [sendFrom]
    cases hAgain : isRetryable method (remote n).result with
    | false =>
      refine goes_last ?_
      rintro ⟨hRead, -⟩
      exact absurd ((isRetryable_iff _ _).mpr hRead) (by simp [hAgain])
    | true =>
      have hRead := (isRetryable_iff _ _).mp hAgain
      have hRest := ih (n + 1)
      rw [RetryPolicy.wait] at hRest
      generalize sendFrom policy method remote more (n + 1) _ = rest at hRest
      rw [if_pos rfl]
      obtain ⟨hSent, hMore, hWaits, hResult⟩ := hRest
      refine ⟨Nat.lt_of_succ_lt hSent, ?_, ?_, hResult⟩
      · intro k hFrom hBefore
        rcases Nat.eq_or_lt_of_le hFrom with rfl | hLater
        · exact iff_of_true hSent ⟨hRead, by omega⟩
        · rw [hMore hLater hBefore]
          exact and_congr_right fun _ => by omega
      · have hCount : rest.sends - 1 - n = rest.sends - 1 - (n + 1) + 1 := by omega
        rw [hCount, List.range'_succ, List.map_cons, ← hWaits]

theorem lawful_send (policy : RetryPolicy) (method : HttpMethod) (remote : Nat → Outcome) :
    (send policy method remote).Lawful policy method remote := by
  obtain ⟨hSent, hAgain, hWaits, hResult⟩ :=
    goes_sendFrom policy method remote (policy.maxAttempts - 1) 0
  have hMore {n : Nat} (hBefore : n < (send policy method remote).sends) :
      n + 1 < (send policy method remote).sends ↔
        method = .get ∧ (remote n).IsTransient ∧ n + 1 < policy.maxAttempts := by
    refine (hAgain (Nat.zero_le n) hBefore).trans ?_
    rw [and_assoc]
    exact and_congr_right fun _ => and_congr_right fun _ => by omega
  refine ⟨hSent, hMore, ?_, ?_, hResult⟩
  · intro hWrites
    have hNot := mt (hMore hSent).mp fun h => hWrites h.1
    exact Nat.le_antisymm (Nat.le_of_not_lt hNot) hSent
  · rw [List.range_eq_range']
    exact hWaits

/-- What comes of the sends of a request. One whose key cannot stand in a header never gets out. -/
def Request.outcomes (request : Request) (remote : Nat → Outcome) : Nat → Outcome :=
  if request.isSendable then remote else fun _ => .lost

/-- **What is sent again.** Under every policy, whatever comes back: a read is sent again exactly
after a transient outcome, while the policy allows another send; a request of another kind is sent
once. The waits are the initial backoff and then always twice the last one, at most the largest
backoff. What is returned is what the last outcome means. -/
theorem Request.run_lawful (request : Request) (policy : RetryPolicy) (remote : Nat → Outcome) :
    (request.run policy remote).Lawful policy request.route.method (request.outcomes remote) :=
  lawful_send policy request.route.method _

/-- A server that is busy and says so. -/
def busyResponse : Response := ⟨503, none, "\x7b\"code\":-1001,\"msg\":\"busy\"\x7d"⟩

/-- The read of a snapshot is sent once, although the exchange answers with status 503 and the
policy allows three sends. -/
theorem busy_server_ends_read :
    let policy : RetryPolicy := {}
    let request := depthRequest "BTCUSDT" 5
    let attempts := request.run policy fun _ => .answered busyResponse
    request.route.method = .get ∧ (500 ≤ busyResponse.status ∧ busyResponse.status ≤ 599) ∧
      attempts.sends < policy.maxAttempts ∧ attempts.sends = 1 ∧
      attempts.result = .error (.exchange 503 ⟨-1001, "busy"⟩) :=
  ⟨rfl, by decide, by decide +kernel, by decide +kernel, rfl⟩

end Rest

end MarketGateway
