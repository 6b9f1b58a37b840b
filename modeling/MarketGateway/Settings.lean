import MarketGateway.Client.Access
import MarketGateway.Client.Config
import MarketGateway.Connection.Config
import MarketGateway.Depth.Config
import MarketGateway.Hub.Config
import MarketGateway.PriceCache.Config
import MarketGateway.Rest.Config
import MarketGateway.Rpc.Config
import MarketGateway.Settings.Variables
import MarketGateway.Text.Blank

/-!
# Settings of the gateway

`Settings.read` reads all settings from variables. Keys, secret and access token are required, in
that order; everything else has a default. What each part of the gateway needs is derived from the
settings, as `Settings.hubConfig` and its neighbours say.
-/

namespace MarketGateway

/-- The exchange that is connected to. -/
inductive Environment
  | testnet
  | mainnet
  deriving Repr, DecidableEq, Inhabited

namespace Environment

def name : Environment → String
  | testnet => "testnet"
  | mainnet => "mainnet"

def isMainnet : Environment → Bool
  | mainnet => true
  | testnet => false

/-- The environment of a name in letters of any case; unknown names mean the test network. -/
def ofName (name : String) : Environment :=
  if ["mainnet", "live", "production"].contains (Text.lower name) then mainnet else testnet

end Environment

/-- Addresses of the exchange. -/
structure Endpoints where
  market : String
  trading : String
  rest : String
  deriving Repr, DecidableEq

/-- The addresses of an environment. -/
def Endpoints.ofEnvironment : Environment → Endpoints
  | .mainnet => ⟨"wss://fstream.binance.com/ws", "wss://ws-fapi.binance.com/ws-fapi/v1",
      "https://fapi.binance.com"⟩
  | .testnet => ⟨"wss://stream.binancefuture.com/ws", "wss://testnet.binancefuture.com/ws-fapi/v1",
      "https://testnet.binancefuture.com"⟩

/-- Key and secret of an account. -/
structure Credentials where
  key : String
  secret : String
  deriving DecidableEq

/-- How credentials are shown in logs. -/
def Credentials.shown (_ : Credentials) : String :=
  "Credentials \x7b api_key: \"[REDACTED]\", api_secret: \"[REDACTED]\" \x7d"

/-- How the access token is shown in logs. -/
def AccessToken.shown (_ : AccessToken) : String := "AuthToken([REDACTED])"

/-- All settings. -/
structure Settings where
  environment : Environment
  endpoints : Endpoints
  credentials : Credentials
  accessToken : AccessToken
  gatewayPort : Nat
  healthPort : Nat
  heartbeat : Heartbeat
  reconnect : ReconnectPolicy
  connectTimeout : Duration
  writeTimeout : Duration
  outboundCapacity : Nat
  inboundCapacity : Nat
  roomGrace : Duration
  client : ClientConfig
  depth : DepthConfig
  rpcTimeout : Duration
  restTimeout : Duration
  restMaxAttempts : Nat
  priceTtl : Duration
  priceWait : Duration
  pricePoll : Duration
  priceSymbols : List String
  deriving DecidableEq

namespace Settings

/-- Names between commas without the blanks around them; empty ones are left out. -/
def symbolList (value : String) : List String :=
  ((value.splitOn ",").map Text.trim).filter (· ≠ "")

def readEndpoints (vars : Variables) (environment : Environment) : Endpoints :=
  let standard := Endpoints.ofEnvironment environment
  { market := (vars.text? "EXCHANGE_MARKET_WS_URL").getD standard.market
    trading := (vars.text? "EXCHANGE_TRADING_WS_URL").getD standard.trading
    rest := (vars.text? "EXCHANGE_REST_URL").getD standard.rest }

def readReconnect (vars : Variables) : ReconnectPolicy where
  initialDelay := vars.millis "GATEWAY_RECONNECT_DELAY_INITIAL_MS" 1000
  maxDelay := vars.secs "GATEWAY_RECONNECT_DELAY_MAX_SECS" 120
  multiplier := vars.real "GATEWAY_RECONNECT_DELAY_MULTIPLIER" (.ofNat 2)
  jitter := vars.real "GATEWAY_RECONNECT_JITTER" (.ofDecimal false 1 (-1))
  maxAttempts := vars.natural "GATEWAY_MAX_RECONNECT_ATTEMPTS" 32 0

def readClient (vars : Variables) : ClientConfig where
  mailboxCapacity := vars.natural "GATEWAY_CLIENT_MAILBOX_CAPACITY" 64 256
  readDeadline := vars.secs "GATEWAY_CLIENT_READ_DEADLINE_SECS" 60
  pingInterval := vars.secs "GATEWAY_CLIENT_PING_INTERVAL_SECS" 54
  writeTimeout := vars.secs "GATEWAY_CLIENT_WRITE_TIMEOUT_SECS" 10

def readDepth (vars : Variables) : DepthConfig where
  bufferCapacity := vars.natural "GATEWAY_DEPTH_INGEST_CAPACITY" 64 1000
  bridgeTimeout := vars.secs "GATEWAY_DEPTH_BRIDGE_TIMEOUT_SECS" 10
  maxSnapshotAttempts := vars.natural "GATEWAY_DEPTH_MAX_SNAPSHOT_ATTEMPTS" 32 3
  updateSpeedMs := vars.natural "GATEWAY_DEPTH_UPDATE_SPEED_MS" 64 100

/-- Reads all settings. -/
def read (vars : Variables) : Except SettingsError Settings := do
  let key ← vars.required "EXCHANGE_API_KEY"
  let secret ← vars.required "EXCHANGE_API_SECRET"
  let token ← vars.required "GATEWAY_AUTH_TOKEN"
  let environment :=
    match vars.text? "GATEWAY_ENV" with
    | some name => Environment.ofName name
    | none => .testnet
  return {
    environment := environment
    endpoints := readEndpoints vars environment
    credentials := ⟨key, secret⟩
    accessToken := ⟨token⟩
    gatewayPort := vars.natural "GATEWAY_PORT" 16 8090
    healthPort := vars.natural "GATEWAY_HEALTH_PORT" 16 8091
    heartbeat := ⟨vars.secs "GATEWAY_HEARTBEAT_INTERVAL_SECS" 20,
      vars.secs "GATEWAY_HEARTBEAT_TIMEOUT_SECS" 60⟩
    reconnect := readReconnect vars
    connectTimeout := vars.secs "GATEWAY_CONNECT_TIMEOUT_SECS" 10
    writeTimeout := vars.secs "GATEWAY_WRITE_TIMEOUT_SECS" 10
    outboundCapacity := vars.natural "GATEWAY_OUTBOUND_CAPACITY" 64 256
    inboundCapacity := vars.natural "GATEWAY_INBOUND_CAPACITY" 64 4096
    roomGrace := vars.secs "GATEWAY_ROOM_GRACE_SECS" 30
    client := readClient vars
    depth := readDepth vars
    rpcTimeout := vars.secs "GATEWAY_RPC_TIMEOUT_SECS" 10
    restTimeout := vars.secs "GATEWAY_REST_TIMEOUT_SECS" 10
    restMaxAttempts := vars.natural "GATEWAY_REST_MAX_ATTEMPTS" 32 3
    priceTtl := vars.secs "GATEWAY_PRICE_TTL_SECS" 10
    priceWait := vars.secs "GATEWAY_PRICE_WAIT_SECS" 5
    pricePoll := vars.millis "GATEWAY_PRICE_POLL_MS" 100
    priceSymbols :=
      match vars.text? "GATEWAY_PRICE_SYMBOLS" with
      | some value => symbolList value
      | none => [] }

/-- A connection to the given address of the exchange. -/
def connection (settings : Settings) (url : String) : ConnectionConfig where
  url := url
  heartbeat := settings.heartbeat
  connectTimeout := settings.connectTimeout
  writeTimeout := settings.writeTimeout
  outboundCapacity := settings.outboundCapacity
  inboundCapacity := settings.inboundCapacity

def marketConnection (settings : Settings) : ConnectionConfig :=
  settings.connection settings.endpoints.market

def hubConfig (settings : Settings) : HubConfig := ⟨settings.roomGrace, settings.reconnect⟩

def rpcConfig (settings : Settings) : RpcConfig where
  connection := settings.connection settings.endpoints.trading
  requestTimeout := settings.rpcTimeout
  reconnect := settings.reconnect

/-- The REST client sends every request at least once. -/
def restConfig (settings : Settings) : RestConfig where
  baseUrl := settings.endpoints.rest
  timeout := settings.restTimeout
  retry := { maxAttempts := max settings.restMaxAttempts 1 }

def priceCacheConfig (settings : Settings) : PriceCacheConfig where
  ttl := settings.priceTtl
  pollInterval := settings.pricePoll
  waitTimeout := settings.priceWait
  reconnect := settings.reconnect

end Settings

end MarketGateway
