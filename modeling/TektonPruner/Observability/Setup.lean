import TektonPruner.Observability.Env

/-!
# Setting up and shutting down observability

`SetupObservability` creates the resource, then the tracing pipeline when
tracing is enabled, then the metrics pipeline when metrics are enabled, and
stops at the first constructor that fails. The OpenTelemetry constructors
(`resource.New`, `otlptracegrpc.New`, `prometheus.New`, `otlpmetricgrpc.New`)
are the world's answers; what is modelled is which objects are created, with
which options. `Shutdown` calls the metrics pipeline's shutdown and then the
tracing pipeline's, each when it was set up, and reports every failure.

The controller's `main` starts its own metrics server when metrics and
Prometheus are enabled. Its `/metrics` route serves the setup's metrics
handler when there is one and a fixed text otherwise; `setupMetrics` never
sets a handler, so the route serves the text.
-/

namespace TektonPruner.Observability

/-- The options an OTLP gRPC exporter is created with: `WithEndpoint`,
`WithInsecure` when set, and `WithHeaders` when the headers are not empty. -/
structure OTLPOptions where
  endpoint : String
  insecure : Bool
  headers : Option StringMap
  deriving DecidableEq, Repr

def otlpOptions (config : Config) : OTLPOptions :=
  ⟨config.otlpEndpoint, config.otlpInsecure, if config.otlpHeaders.length > 0 then some config.otlpHeaders else none⟩

/-- The tracer provider `setupTracing` creates: the exporter it batches to, and
the ratio of its `TraceIDRatioBased` sampler, when it sets one. -/
structure TracerProvider where
  exporter : Option OTLPOptions
  sampleRate : Option Float

inductive Reader
  | prometheus
  /-- A `PeriodicReader` on an OTLP exporter, with its interval in nanoseconds. -/
  | otlpPeriodic (options : OTLPOptions) (interval : Int)
  deriving DecidableEq, Repr

/-- The answers of the constructors `SetupObservability` calls; `none` is success. -/
structure Answers where
  resourceErr : Option String
  traceExporterErr : Option String
  prometheusErr : Option String
  metricExporterErr : Option String
  deriving DecidableEq, Repr

/-- `ObservabilitySetup`, without its logger. The two shutdown fields say whether
`metricsShutdown` and `tracingShutdown` are set, and `metricsHandler` whether
the handler is non-nil. -/
structure ObservabilitySetup where
  config : Config
  tracerProvider : Option TracerProvider
  meterProvider : Option (List Reader)
  metricsShutdown : Bool
  tracingShutdown : Bool
  metricsHandler : Bool

def setupTracing (config : Config) (traceExporterErr : Option String) : Except String TracerProvider := do
  let exporter ←
    if config.otlpTraceEnabled then
      match traceExporterErr with
      | some err => throw ("failed to create OTLP trace exporter: " ++ err)
      | none => pure (some (otlpOptions config))
    else pure none
  pure ⟨exporter, if config.tracingSampleRate > 0 then some config.tracingSampleRate else none⟩

/-- `setupMetrics`: the meter provider's readers, and whether it returns a handler. -/
def setupMetrics (config : Config) (prometheusErr metricExporterErr : Option String) :
    Except String (List Reader × Bool) := do
  let (readers, handler) ←
    if config.prometheusEnabled then
      match prometheusErr with
      | some err => throw ("failed to create prometheus exporter: " ++ err)
      | none => pure ([Reader.prometheus], false)
    else pure ([], false)
  let readers ←
    if config.otlpMetricsEnabled then
      match metricExporterErr with
      | some err => throw ("failed to create OTLP metrics exporter: " ++ err)
      | none => pure (readers ++ [Reader.otlpPeriodic (otlpOptions config) config.metricsInterval])
    else pure readers
  pure (readers, handler)

def setupObservability (config : Config) (answers : Answers) : Except String ObservabilitySetup := do
  if let some err := answers.resourceErr then throw ("failed to create resource: " ++ err)
  let setup : ObservabilitySetup := ⟨config, none, none, false, false, false⟩
  let setup ←
    if config.tracingEnabled then
      match setupTracing config answers.traceExporterErr with
      | .error err => throw ("failed to setup tracing: " ++ err)
      | .ok tp => pure { setup with tracerProvider := some tp, tracingShutdown := true }
    else pure setup
  if config.metricsEnabled then
    match setupMetrics config answers.prometheusErr answers.metricExporterErr with
    | .error err => throw ("failed to setup metrics: " ++ err)
    | .ok (readers, handler) =>
      pure { setup with meterProvider := some readers, metricsShutdown := true, metricsHandler := handler }
  else pure setup

inductive Pipeline
  | metrics
  | tracing
  deriving DecidableEq, Repr

/-- `ObservabilitySetup.Shutdown`, with what each provider's `Shutdown` returns:
the pipelines it shut down, in order, and its error. `%v` prints the errors as
`[e1 e2]`. -/
def ObservabilitySetup.shutdown (s : ObservabilitySetup) (shutdownErr : Pipeline → Option String) :
    List Pipeline × Option String :=
  let step (acc : List Pipeline × List String) (set : Bool) (pipeline : Pipeline) (pfx : String) :=
    if set then (acc.1 ++ [pipeline], acc.2 ++ ((shutdownErr pipeline).map (pfx ++ ·)).toList) else acc
  let acc := step ([], []) s.metricsShutdown .metrics "metrics shutdown error: "
  let (calls, errors) := step acc s.tracingShutdown .tracing "tracing shutdown error: "
  (calls, if errors.length > 0 then some ("observability shutdown errors: [" ++ " ".intercalate errors ++ "]")
    else none)

-- ---------------------------------------------------------------------------
-- The controller's metrics server
-- ---------------------------------------------------------------------------

/-- What a route of the controller's metrics server answers: the setup's
metrics handler, or a fixed `200 OK` body. -/
inductive Route
  | handler
  | text (body : String)
  deriving DecidableEq, Repr

structure MetricsServer where
  addr : String
  routes : List (String × Route)
  deriving DecidableEq, Repr

def controllerMetricsServer (config : Config) (setup : ObservabilitySetup) : Option MetricsServer :=
  if config.metricsEnabled && config.prometheusEnabled then
    some ⟨":" ++ toString config.metricsPort,
      [("/metrics", if setup.metricsHandler then .handler else .text "# Metrics endpoint - OpenTelemetry metrics available\n"),
       ("/health", .text "OK"), ("/ready", .text "Ready")]⟩
  else none

/-- With no variable set, the setup creates the Prometheus reader only, and the
metrics server answers `/metrics` with the fixed text. -/
example :
    setupObservability defaultConfig ⟨none, none, none, none⟩ =
        .ok ⟨defaultConfig, none, some [.prometheus], true, false, false⟩ ∧
      controllerMetricsServer defaultConfig ⟨defaultConfig, none, some [.prometheus], true, false, false⟩ =
        some ⟨":9090", [("/metrics", .text "# Metrics endpoint - OpenTelemetry metrics available\n"),
          ("/health", .text "OK"), ("/ready", .text "Ready")]⟩ :=
  ⟨rfl, rfl⟩

end TektonPruner.Observability
