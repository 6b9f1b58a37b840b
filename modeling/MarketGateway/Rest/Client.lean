import MarketGateway.Book.Event
import MarketGateway.Feed.Error
import MarketGateway.Rest.Config
import MarketGateway.Rest.Position
import MarketGateway.Rest.Response
import MarketGateway.Trade.Request
import MarketGateway.Trade.Signing

/-!
# The REST client

Requests to the exchange and their retries. What the exchange does is given as the outcomes of one
send after another. A read (`GET`) is sent again when the network failed or the exchange answered
with a status of 500 to 599 that carries no error of its own; everything else is sent once. The
wait before a second send is the initial backoff, and it doubles from send to send up to a bound.
`Client` makes the requests of an account and reads what they give.
-/

namespace MarketGateway.Rest

/-- What came of sending a request once. -/
inductive Outcome
  /-- No response, or none that could be read to its end. -/
  | lost
  | answered (response : Response)
  deriving Repr, DecidableEq

/-- What an outcome means. -/
def Outcome.result : Outcome → Except RestError Json
  | lost => .error .network
  | answered response => response.outcome

/-- Whether a result of a request calls for another send. -/
def isRetryable (method : HttpMethod) : Except RestError Json → Bool
  | .error .network => method = .get
  | .error (.http status _) => method = .get && 500 ≤ status && status ≤ 599
  | _ => false

/-- What came of a request with all its sends. -/
structure Attempts where
  sends : Nat
  /-- The waits between the sends. -/
  waits : List Duration
  result : Except RestError Json

/-- Sends a request for the `n`-th time, counted from zero, and up to `more` times again. -/
def sendFrom (policy : RetryPolicy) (method : HttpMethod) (remote : Nat → Outcome) :
    Nat → Nat → Duration → Attempts
  | 0, n, _ => ⟨n + 1, [], (remote n).result⟩
  | more + 1, n, backoff =>
    let result := (remote n).result
    if isRetryable method result then
      let rest := sendFrom policy method remote more (n + 1) (min (backoff * 2) policy.maxBackoff)
      { rest with waits := backoff :: rest.waits }
    else ⟨n + 1, [], result⟩

/-- Sends a request as often as the policy allows. -/
def send (policy : RetryPolicy) (method : HttpMethod) (remote : Nat → Outcome) : Attempts :=
  sendFrom policy method remote (policy.maxAttempts - 1) 0 policy.initialBackoff

/-- A request as it goes out. -/
structure Request where
  route : Route
  query : String
  /-- The key of the account, for a signed request. -/
  apiKey : Option String := none
  deriving Repr, DecidableEq

/-- The address that request paths are appended to, without slashes at its end. -/
def normalizeBaseUrl (url : String) : String :=
  String.ofList (url.toList.reverse.dropWhile (· == '/')).reverse

/-- The whole address of a request. -/
def Request.url (request : Request) (baseUrl : String) : String :=
  normalizeBaseUrl baseUrl ++ request.route.path ++ "?" ++ request.query

/-- Whether a text can be the value of a header: it holds no control characters but tabs. -/
def isHeaderValue (value : String) : Bool :=
  value.toList.all fun c => (0x20 ≤ c.toNat && c.toNat != 0x7f) || c == '\t'

/-- Whether the key of a request can stand in a header; a request whose key cannot is never sent. -/
def Request.isSendable (request : Request) : Bool :=
  match request.apiKey with
  | some key => isHeaderValue key
  | none => true

/-- Sizes of snapshots that the exchange gives, in increasing order. -/
def snapshotLimits : List Nat := [5, 10, 20, 50, 100, 500, 1000]

/-- The smallest size that holds so many levels, or the largest one. -/
def snapshotLimit (levels : Nat) : Nat := (snapshotLimits.find? (levels ≤ ·)).getD 1000

/-- The request for a snapshot of at least so many levels. -/
def depthRequest (symbol : String) (levels : Nat) : Request where
  route := ⟨.get, "/fapi/v1/depth"⟩
  query := "symbol=" ++ symbol ++ "&limit=" ++ Text.natural (snapshotLimit levels)

/-- The signed request for a command. -/
def commandRequest (signer : Trade.Signer) (command : TradeCommand) (timestamp : Int64) :
    Request where
  route := .ofCommand command
  query := signer.signedQuery command.params timestamp
  apiKey := some signer.apiKey

/-- Sends a request. -/
def Request.run (request : Request) (policy : RetryPolicy) (remote : Nat → Outcome) : Attempts :=
  send policy request.route.method (if request.isSendable then remote else fun _ => .lost)

/-- Reads the value of a response in a form. -/
def decoded {α : Type} (form : Json.Form α) (result : Except RestError Json) :
    Except RestError α := do
  match form.ofJson (← result) with
  | some a => return a
  | none => throw .jsonParse

/-- A failure to get a snapshot as one of the feed. -/
def snapshotFailure (error : RestError) : FeedError := .snapshot error.message

/-- A client with its account. What comes of each send of a request is given to its calls. -/
structure Client where
  retry : RetryPolicy
  signer : Trade.Signer

namespace Client

variable (client : Client) (remote : Request → Nat → Outcome)

/-- The result of a request. -/
def perform (request : Request) : Except RestError Json :=
  (request.run client.retry (remote request)).result

/-- Executes a command. -/
def execute (command : TradeCommand) (timestamp : Int64) : Except RestError Json :=
  client.perform remote (commandRequest client.signer command timestamp)

/-- A snapshot of at least so many levels. -/
def depthSnapshot (symbol : String) (levels : Nat) : Except RestError Book.Snapshot :=
  decoded Book.Snapshot.form (client.perform remote (depthRequest symbol levels))

/-- A snapshot as a depth feed asks for it. -/
def fetchSnapshot (symbol : String) (levels : Nat) : Except FeedError Book.Snapshot :=
  (client.depthSnapshot remote symbol levels).mapError snapshotFailure

/-- The positions of the account, all of them or those in one symbol. -/
def positions (symbol : Option String) (timestamp : Int64) : Except RestError (List Position) :=
  decoded Position.form.list (client.execute remote (.queryPosition symbol) timestamp)

end Client

end MarketGateway.Rest
