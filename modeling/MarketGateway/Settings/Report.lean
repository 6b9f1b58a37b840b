import MarketGateway.Json
import MarketGateway.Settings

/-!
# Reports of settings

All settings, and what is derived from them, as one JSON value. Durations are texts of nanoseconds
and doubles texts of their bits, so that nothing is rounded.
-/

namespace MarketGateway

open Json

def Duration.report (d : Duration) : Json := string (Text.natural d)

/-- The sixteen hexadecimal digits of the bits, or `nan`. -/
def Binary64.report : Binary64 → Json
  | .nan => string "nan"
  | x =>
    let digits := Nat.toDigits 16 x.toBits
    string (String.ofList (List.replicate (16 - digits.length) '0' ++ digits))

def Heartbeat.report (h : Heartbeat) : Json :=
  object [("ping_ns", h.pingInterval.report), ("deadline_ns", h.readDeadline.report)]

def ReconnectPolicy.report (p : ReconnectPolicy) : Json :=
  object [("initial_ns", p.initialDelay.report), ("max_ns", p.maxDelay.report),
    ("multiplier", p.multiplier.report), ("jitter", p.jitter.report),
    ("max_attempts", nat p.maxAttempts)]

def ConnectionConfig.report (c : ConnectionConfig) : Json :=
  object [("url", string c.url), ("heartbeat", c.heartbeat.report),
    ("connect_ns", c.connectTimeout.report), ("write_ns", c.writeTimeout.report),
    ("outbound", nat c.outboundCapacity), ("inbound", nat c.inboundCapacity)]

def ClientConfig.report (c : ClientConfig) : Json :=
  object [("mailbox", nat c.mailboxCapacity), ("read_ns", c.readDeadline.report),
    ("ping_ns", c.pingInterval.report), ("write_ns", c.writeTimeout.report)]

def DepthConfig.report (d : DepthConfig) : Json :=
  object [("buffer", nat d.bufferCapacity), ("bridge_ns", d.bridgeTimeout.report),
    ("attempts", nat d.maxSnapshotAttempts), ("speed_ms", nat d.updateSpeedMs)]

def RpcConfig.report (r : RpcConfig) : Json :=
  object [("connection", r.connection.report), ("timeout_ns", r.requestTimeout.report),
    ("reconnect", r.reconnect.report)]

def RestConfig.report (r : RestConfig) : Json :=
  object [("base", string r.baseUrl), ("timeout_ns", r.timeout.report),
    ("attempts", nat r.retry.maxAttempts), ("backoff_ns", r.retry.initialBackoff.report),
    ("max_backoff_ns", r.retry.maxBackoff.report)]

/-- All settings. Key and secret are shown as they are. -/
def Settings.report (s : Settings) : Json :=
  object [("environment", string s.environment.name), ("mainnet", bool s.environment.isMainnet),
    ("endpoints",
      array [string s.endpoints.market, string s.endpoints.trading, string s.endpoints.rest]),
    ("key", string s.credentials.key), ("secret", string s.credentials.secret),
    ("debug", array [string s.credentials.shown, string s.accessToken.shown]),
    ("ports", array [nat s.gatewayPort, nat s.healthPort]),
    ("market", s.marketConnection.report),
    ("hub", object [("grace_ns", s.hubConfig.gracePeriod.report),
      ("reconnect", s.hubConfig.reconnect.report)]),
    ("client", s.client.report), ("depth", s.depth.report), ("rpc", s.rpcConfig.report),
    ("rest", s.restConfig.report),
    ("cache", object [("ttl_ns", s.priceCacheConfig.ttl.report),
      ("poll_ns", s.priceCacheConfig.pollInterval.report),
      ("wait_ns", s.priceCacheConfig.waitTimeout.report),
      ("reconnect", s.priceCacheConfig.reconnect.report),
      ("symbols", array (s.priceSymbols.map string))])]

end MarketGateway
