import MarketGateway.Settings
import Mathlib.Data.List.Basic

/-!
# Settings that the gateway can run on

The parts of the gateway rely on their settings: a price is polled for at intervals that are not
empty, the random part of a delay has a width, and a peer is pinged before its silence counts as the
end of the connection (`Settings.Serviceable`). Reading settings checks none of this. It fails only
for a required variable (`read_eq_ok_iff`), and takes every number that can be read as it stands.

So settings are serviceable if and only if the variables are `Sensible`, which is said of their
texts (`Stem.serviceable_iff`). Variables that are not set are (`sensible_of_unset`).
-/

namespace MarketGateway

/-! ## What variables say -/

namespace Variables

variable {vars : Variables} {name : String} {bits default n m : Nat}

/-- The text of the variable is a numeral of a number that fits in a word of so many bits. -/
def Says (vars : Variables) (name : String) (bits n : Nat) : Prop :=
  ∃ text, vars name = some text ∧ Text.Numeral n text.toList ∧ n < Text.wordLimit bits

/-- The text of the variable is read as a double. -/
def SaysReal (vars : Variables) (name : String) (x : Binary64) : Prop :=
  ∃ text, vars name = some text ∧ Binary64.ofText? text = some x

/-- The variable says this number, or it says none and this is the default. -/
def Gives (vars : Variables) (name : String) (bits default n : Nat) : Prop :=
  vars.Says name bits n ∨ (n = default ∧ ∀ m, ¬ vars.Says name bits m)

theorem bind_text?_eq_some_iff {α : Type} {read : String → Option α} {value : α}
    (hEmpty : read "" = none) :
    (vars.text? name).bind read = some value ↔ ∃ text, vars name = some text ∧
      read text = some value := by
  unfold text?
  cases vars name with
  | none => simp
  | some text =>
    by_cases hText : text = ""
    · simp [hText, hEmpty]
    · simp [hText]

theorem read_natural_eq_some_iff :
    (vars.text? name).bind (Text.natural? (Text.wordLimit bits)) = some n ↔
      vars.Says name bits n := by
  have hEmpty : Text.natural? (Text.wordLimit bits) "" = none := rfl
  rw [bind_text?_eq_some_iff hEmpty]
  simp only [Text.natural?_eq_some_iff, Says]

theorem read_real_eq_some_iff {x : Binary64} :
    (vars.text? name).bind Binary64.ofText? = some x ↔ vars.SaysReal name x :=
  bind_text?_eq_some_iff (by decide +kernel)

theorem natural_eq_iff : vars.natural name bits default = n ↔ vars.Gives name bits default n := by
  simp only [Gives, ← read_natural_eq_some_iff, natural]
  cases (vars.text? name).bind (Text.natural? (Text.wordLimit bits)) with
  | none => simp [eq_comm]
  | some read => simp

/-- Two variables keep an order if and only if all that they give keeps it. -/
theorem natural_lt_natural_iff {other : String} {otherDefault : Nat} :
    vars.natural name bits default < vars.natural other bits otherDefault ↔
      ∀ n m, vars.Gives name bits default n → vars.Gives other bits otherDefault m → n < m := by
  simp only [← natural_eq_iff]
  exact ⟨by rintro hLess _ _ rfl rfl; exact hLess, fun hAll => hAll _ _ rfl rfl⟩

theorem isFinite_real_iff {standard : Binary64} (hStandard : standard.isFinite = true) :
    (vars.real name standard).isFinite = true ↔
      ∀ x, vars.SaysReal name x → x.isFinite = true := by
  simp only [← read_real_eq_some_iff, real]
  cases (vars.text? name).bind Binary64.ofText? with
  | none => simp [hStandard]
  | some read => simp

/-- What the gateway relies on, said of the texts of the variables. -/
structure Sensible (vars : Variables) : Prop where
  poll : ¬ vars.Says "GATEWAY_PRICE_POLL_MS" 64 0
  jitter : ∀ x, vars.SaysReal "GATEWAY_RECONNECT_JITTER" x → x.isFinite = true
  upstream : ∀ ping deadline, vars.Gives "GATEWAY_HEARTBEAT_INTERVAL_SECS" 64 20 ping →
    vars.Gives "GATEWAY_HEARTBEAT_TIMEOUT_SECS" 64 60 deadline → ping < deadline
  downstream : ∀ ping deadline, vars.Gives "GATEWAY_CLIENT_PING_INTERVAL_SECS" 64 54 ping →
    vars.Gives "GATEWAY_CLIENT_READ_DEADLINE_SECS" 64 60 deadline → ping < deadline

end Variables

/-! ## What is read -/

namespace Settings

variable {vars : Variables} {settings : Settings}

/-- The parts of the gateway can do their work with these settings. -/
structure Serviceable (settings : Settings) : Prop where
  polls : 0 < settings.priceCacheConfig.pollInterval
  jitters : ∀ policy ∈ [settings.hubConfig.reconnect, settings.rpcConfig.reconnect,
    settings.priceCacheConfig.reconnect], policy.jitter.isFinite = true
  upstream : ∀ config ∈ [settings.marketConnection, settings.rpcConfig.connection],
    config.heartbeat.pingInterval < config.heartbeat.readDeadline
  downstream : settings.client.pingInterval < settings.client.readDeadline

/-- The variables that have to be set. -/
def requiredVariables : List String :=
  ["EXCHANGE_API_KEY", "EXCHANGE_API_SECRET", "GATEWAY_AUTH_TOKEN"]

theorem required_eq_ok_iff {name text : String} :
    vars.required name = .ok text ↔ vars name = some text ∧ text ≠ "" := by
  unfold Variables.required
  cases vars name with
  | none => simp
  | some found =>
    by_cases hFound : found = ""
    · simp [hFound, eq_comm]
    · simp only [hFound, if_false, Except.ok.injEq, Option.some.injEq]
      exact ⟨fun hSame => ⟨hSame, hSame ▸ hFound⟩, And.left⟩

theorem ofMillis_pos_iff {n : Nat} : 0 < Duration.ofMillis n ↔ n ≠ 0 :=
  (Nat.mul_pos_iff_of_pos_right (by decide)).trans Nat.pos_iff_ne_zero

theorem ofSecs_lt_ofSecs_iff {n m : Nat} : Duration.ofSecs n < .ofSecs m ↔ n < m :=
  Nat.mul_lt_mul_right (by decide)

/-- Where the settings that the gateway relies on come from. -/
structure Stem (vars : Variables) (settings : Settings) : Prop where
  poll : settings.pricePoll = vars.millis "GATEWAY_PRICE_POLL_MS" 100
  reconnect : settings.reconnect = readReconnect vars
  heartbeat : settings.heartbeat = ⟨vars.secs "GATEWAY_HEARTBEAT_INTERVAL_SECS" 20,
    vars.secs "GATEWAY_HEARTBEAT_TIMEOUT_SECS" 60⟩
  client : settings.client = readClient vars

/-- Settings are read unless a required variable fails, and nothing is checked on the way. -/
theorem read_cases (vars : Variables) :
    (∃ name ∈ requiredVariables, ∃ error, vars.required name = .error error ∧
      read vars = .error error) ∨
    ∃ settings, read vars = .ok settings ∧ Stem vars settings ∧
      ∀ name ∈ requiredVariables, ∃ text, vars.required name = .ok text := by
  unfold read
  cases hKey : vars.required "EXCHANGE_API_KEY" with
  | error error => exact .inl ⟨_, by simp [requiredVariables], error, hKey, rfl⟩
  | ok key =>
    cases hSecret : vars.required "EXCHANGE_API_SECRET" with
    | error error => exact .inl ⟨_, by simp [requiredVariables], error, hSecret, rfl⟩
    | ok secret =>
      cases hToken : vars.required "GATEWAY_AUTH_TOKEN" with
      | error error => exact .inl ⟨_, by simp [requiredVariables], error, hToken, rfl⟩
      | ok token =>
        refine .inr ⟨_, rfl, ⟨rfl, rfl, rfl, rfl⟩, ?_⟩
        simp [requiredVariables, hKey, hSecret, hToken]

theorem read_eq_ok_iff (vars : Variables) :
    (∃ settings, read vars = .ok settings) ↔
      ∀ name ∈ requiredVariables, ∃ text, vars name = some text ∧ text ≠ "" := by
  simp only [← required_eq_ok_iff]
  rcases read_cases vars with ⟨name, hName, error, hRequired, hRead⟩ | ⟨settings, hRead, -, hAll⟩
  · refine iff_of_false (by simp [hRead]) ?_
    intro hAll
    obtain ⟨text, hText⟩ := hAll name hName
    cases hRequired.symm.trans hText
  · exact iff_of_true ⟨settings, hRead⟩ hAll

theorem Stem.serviceable_iff (hStem : Stem vars settings) :
    settings.Serviceable ↔ vars.Sensible := by
  have hPoll : 0 < settings.priceCacheConfig.pollInterval ↔
      ¬ vars.Says "GATEWAY_PRICE_POLL_MS" 64 0 := by
    rw [priceCacheConfig, hStem.poll, Variables.millis, ofMillis_pos_iff, ne_eq,
      Variables.natural_eq_iff, Variables.Gives]
    simp
  have hJitter : settings.reconnect.jitter.isFinite = true ↔
      ∀ x, vars.SaysReal "GATEWAY_RECONNECT_JITTER" x → x.isFinite = true := by
    rw [hStem.reconnect]
    exact Variables.isFinite_real_iff (by decide +kernel)
  have hUpstream : settings.heartbeat.pingInterval < settings.heartbeat.readDeadline ↔
      ∀ ping deadline, vars.Gives "GATEWAY_HEARTBEAT_INTERVAL_SECS" 64 20 ping →
        vars.Gives "GATEWAY_HEARTBEAT_TIMEOUT_SECS" 64 60 deadline → ping < deadline := by
    rw [hStem.heartbeat]
    exact ofSecs_lt_ofSecs_iff.trans Variables.natural_lt_natural_iff
  have hDownstream : settings.client.pingInterval < settings.client.readDeadline ↔
      ∀ ping deadline, vars.Gives "GATEWAY_CLIENT_PING_INTERVAL_SECS" 64 54 ping →
        vars.Gives "GATEWAY_CLIENT_READ_DEADLINE_SECS" 64 60 deadline → ping < deadline := by
    rw [hStem.client]
    exact ofSecs_lt_ofSecs_iff.trans Variables.natural_lt_natural_iff
  constructor
  · intro hServes
    exact ⟨hPoll.mp hServes.polls, hJitter.mp (hServes.jitters _ List.mem_cons_self),
      hUpstream.mp (hServes.upstream _ List.mem_cons_self), hDownstream.mp hServes.downstream⟩
  · intro hSensible
    refine ⟨hPoll.mpr hSensible.poll, ?_, ?_, hDownstream.mpr hSensible.downstream⟩
    · simpa [hubConfig, rpcConfig, priceCacheConfig] using hJitter.mpr hSensible.jitter
    · simpa [marketConnection, rpcConfig, connection] using hUpstream.mpr hSensible.upstream

/-- **Settings can be run on if and only if the variables are sensible.** Reading them fails for a
required variable that is not set or empty and for nothing else. Of settings that were read, the
interval between polls of a price is not empty, the random part of delays has a finite width, and
connections on either side are pinged before their read deadline, exactly when no variable says
otherwise: an interval of zero, a width that is infinite or no number, or a ping that does not come
before the deadline, defaults included. -/
theorem serviceable_iff_sensible (vars : Variables) :
    ((∃ settings, read vars = .ok settings) ↔
      ∀ name ∈ requiredVariables, ∃ text, vars name = some text ∧ text ≠ "") ∧
    ∀ settings, read vars = .ok settings → (settings.Serviceable ↔ vars.Sensible) := by
  refine ⟨read_eq_ok_iff vars, ?_⟩
  intro settings hRead
  rcases read_cases vars with ⟨-, -, error, -, hError⟩ | ⟨same, hSame, hStem, -⟩
  · cases hError.symm.trans hRead
  · obtain rfl := Except.ok.inj (hSame.symm.trans hRead)
    exact hStem.serviceable_iff

/-! ## Variables that are not set, and variables that say too much -/

/-- The variables that decide whether settings can be run on. -/
def tuningVariables : List String :=
  ["GATEWAY_PRICE_POLL_MS", "GATEWAY_RECONNECT_JITTER", "GATEWAY_HEARTBEAT_INTERVAL_SECS",
    "GATEWAY_HEARTBEAT_TIMEOUT_SECS", "GATEWAY_CLIENT_PING_INTERVAL_SECS",
    "GATEWAY_CLIENT_READ_DEADLINE_SECS"]

/-- The defaults pass. -/
theorem sensible_of_unset (hUnset : ∀ name ∈ tuningVariables, vars name = none) :
    vars.Sensible := by
  have hSays {name : String} (hName : name ∈ tuningVariables) (bits n : Nat) :
      ¬ vars.Says name bits n := by
    rintro ⟨text, hText, -⟩
    cases (hUnset name hName).symm.trans hText
  have hGives {name : String} (hName : name ∈ tuningVariables) {bits default n : Nat}
      (hGiven : vars.Gives name bits default n) : n = default :=
    hGiven.elim (fun hSaid => absurd hSaid (hSays hName bits n)) And.left
  refine ⟨hSays (by simp [tuningVariables]) 64 0, ?_, ?_, ?_⟩
  · rintro x ⟨text, hText, -⟩
    cases (hUnset _ (by simp [tuningVariables])).symm.trans hText
  · intro ping deadline hPing hDeadline
    rw [hGives (by simp [tuningVariables]) hPing, hGives (by simp [tuningVariables]) hDeadline]
    decide
  · intro ping deadline hPing hDeadline
    rw [hGives (by simp [tuningVariables]) hPing, hGives (by simp [tuningVariables]) hDeadline]
    decide

/-- Only what is required is set. -/
def bareVariables : Variables := fun name =>
  if name ∈ requiredVariables then some "secret" else none

/-- The required variables alone give settings that can be run on. -/
theorem serviceable_of_bareVariables :
    ∃ settings, read bareVariables = .ok settings ∧ settings.Serviceable := by
  obtain ⟨hAccepted, hServes⟩ := serviceable_iff_sensible bareVariables
  obtain ⟨settings, hRead⟩ := hAccepted.mpr (by decide)
  exact ⟨settings, hRead, (hServes settings hRead).mpr (sensible_of_unset (by decide))⟩

/-- Polls without an interval, a random part that is no number, and pings that come too late. -/
def carelessVariables : Variables := fun name =>
  if name ∈ requiredVariables then some "secret"
  else [("GATEWAY_PRICE_POLL_MS", "0"), ("GATEWAY_RECONNECT_JITTER", "nan"),
    ("GATEWAY_HEARTBEAT_INTERVAL_SECS", "90"), ("GATEWAY_CLIENT_PING_INTERVAL_SECS", "60")].lookup
      name

/-- They are read as they stand. -/
theorem careless_settings_read :
    ∃ settings, read carelessVariables = .ok settings ∧
      settings.priceCacheConfig.pollInterval = 0 ∧
      settings.hubConfig.reconnect.jitter.isFinite = false ∧
      settings.marketConnection.heartbeat.readDeadline <
        settings.marketConnection.heartbeat.pingInterval ∧
      settings.client.readDeadline = settings.client.pingInterval :=
  ⟨_, rfl, by decide +kernel, by decide +kernel, by decide +kernel, by decide +kernel⟩

end Settings

end MarketGateway
