import MarketGateway.Duration
import MarketGateway.Failure
import MarketGateway.Number.Binary64.Literal

/-!
# Variables

Typed reads from a source of settings. An empty value counts as unset, and a value that cannot be
read gives way to the default; only required variables can fail.
-/

namespace MarketGateway

/-- A source of settings: the value of a variable, if it is set. -/
abbrev Variables := String → Option String

/-- Why settings cannot be read. -/
inductive SettingsError
  | missing (name : String)
  | empty (name : String)
  deriving Repr, DecidableEq, Inhabited

def SettingsError.message : SettingsError → String
  | missing name => "missing required environment variable: " ++ name
  | empty name => "environment variable " ++ name ++ " cannot be empty"

def SettingsError.kind : SettingsError → String
  | missing _ => "MissingEnvVar"
  | empty _ => "EmptyValue"

instance : Failure SettingsError := ⟨SettingsError.kind, SettingsError.message⟩

namespace Variables

/-- The value of a variable unless it is empty. -/
def text? (vars : Variables) (name : String) : Option String :=
  match vars name with
  | some value => if value = "" then none else some value
  | none => none

/-- The value of a variable that has to be set. -/
def required (vars : Variables) (name : String) : Except SettingsError String :=
  match vars name with
  | none => .error (.missing name)
  | some value => if value = "" then .error (.empty name) else .ok value

/-- An unsigned number of the given width. -/
def natural (vars : Variables) (name : String) (bits default : Nat) : Nat :=
  ((vars.text? name).bind (Text.natural? (Text.wordLimit bits))).getD default

/-- A double. -/
def real (vars : Variables) (name : String) (default : Binary64) : Binary64 :=
  ((vars.text? name).bind Binary64.ofText?).getD default

/-- A number of seconds. -/
def secs (vars : Variables) (name : String) (default : Nat) : Duration :=
  .ofSecs (vars.natural name 64 default)

/-- A number of milliseconds. -/
def millis (vars : Variables) (name : String) (default : Nat) : Duration :=
  .ofMillis (vars.natural name 64 default)

end Variables

end MarketGateway
