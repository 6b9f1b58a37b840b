import MarketGateway.Settings.Variables

/-!
# Settings of trace export
-/

namespace MarketGateway


/-- Whether and where traces are exported. -/
structure TelemetryConfig where
  enabled : Bool
  endpoint : String
  service : String
  deriving Repr, DecidableEq

/-- Reads the settings. Export is off only when the variable says false in letters of any case. -/
def TelemetryConfig.read (vars : Variables) : TelemetryConfig where
  enabled :=
    match vars "OTEL_ENABLED" with
    | some value => !Text.equalIgnoringCase value "false"
    | none => true
  endpoint := (vars "OTEL_EXPORTER_OTLP_ENDPOINT").getD "http://localhost:4317"
  service := (vars "OTEL_SERVICE_NAME").getD "exchange-gateway"

end MarketGateway
