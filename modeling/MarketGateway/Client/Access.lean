import MarketGateway.Text.Utf8

/-!
# Access tokens

A client presents a token in one of three places: the query, the header `x-auth-token`, or a bearer
credential in the header `authorization`. The first place that holds a readable token counts
(`presentedToken`), and it must be the configured token byte for byte (`AccessToken.admits`).
-/

namespace MarketGateway

/-- Request headers in the order in which they came. -/
abbrev Headers := List (String × String)

/-- Whether every character can be read as text in a header: visible ASCII, a space or a tab. -/
def isReadable (value : String) : Bool :=
  value.toList.all fun c => (0x20 ≤ c.toNat && c.toNat < 0x7f) || c.toNat == 9

/-- The first value of a header, if it is readable. Names are compared in small letters. -/
def Headers.text? (headers : Headers) (name : String) : Option String :=
  match headers.find? (·.1.toLower == name) with
  | some (_, value) => if isReadable value then some value else none
  | none => none

/-- What follows a fixed start of a text. -/
def afterStart? : List Char → List Char → Option (List Char)
  | [], rest => some rest
  | _ :: _, [] => none
  | p :: start, c :: rest => if p = c then afterStart? start rest else none

/-- The token of a bearer credential. -/
def bearer? (credential : String) : Option String :=
  (afterStart? "Bearer ".toList credential.toList).map String.ofList

/-- The token that a request presents: from the query unless it is empty there, else from the token
header if it is readable, else from a bearer credential. -/
def presentedToken (query : Option String) (headers : Headers) : Option String :=
  match query with
  | some token => if token ≠ "" then some token else fromHeaders
  | none => fromHeaders
where
  fromHeaders : Option String :=
    match headers.text? "x-auth-token" with
    | some token => some token
    | none => (headers.text? "authorization").bind bearer?

/-- The token that clients must present. -/
structure AccessToken where
  value : String
  deriving DecidableEq

namespace AccessToken

/-- Whether two byte strings are equal, looking at every byte when their lengths agree. -/
def sameBytes (a b : List UInt8) : Bool :=
  if a.length ≠ b.length then false
  else (a.zip b).foldl (fun acc (x, y) => acc ||| (x ^^^ y)) (0 : UInt8) == 0

/-- Whether a presented token is the configured one. -/
def admits (token : AccessToken) (presented : String) : Bool :=
  sameBytes (Text.Utf8.bytes token.value) (Text.Utf8.bytes presented)

/-- Whether a request may connect. -/
def authorizes (token : AccessToken) (query : Option String) (headers : Headers) : Bool :=
  match presentedToken query headers with
  | some presented => token.admits presented
  | none => false

end AccessToken

end MarketGateway
