import TektonPruner.Go.Strings
import TektonPruner.Store.Object

/-!
# The observability configuration from the environment

`LoadConfigFromEnv` starts from `DefaultConfig` and, for each variable that is
set to a non-empty value, in the source's order, makes the update of its `if`
block. Two variables hold lists of `key=value` pairs separated by commas,
which `parseKeyValuePairs` and `parseHeaders` (the same body) read: a pair
without `=` is skipped, both sides are trimmed, and a later pair wins.

The three number parsers (`strconv.Atoi`, `time.ParseDuration`,
`strconv.ParseFloat`) are parameters, `none` standing for their error.

Pairs whose keys hold neither `,` nor `=`, whose values hold no `,`, and
whose sides have no surrounding space, joined as `k=v` by commas, read back
as the map that gives each key the value of its last pair. The resource's
`service.name` is the one `OTEL_RESOURCE_ATTRIBUTES` names, when it names
one, and the service name otherwise.
-/

namespace TektonPruner.Observability

open strings

def serviceName : String := "tektoncd-pruner"
def serviceVersion : String := "dev"

def defaultMetricsInterval : Int := 30 * 10 ^ 9

def defaultOTLPEndpoint : String := "http://localhost:4317"

/-- `Config`; durations are nanoseconds, and a nil map is the empty one. -/
structure Config where
  serviceName : String
  serviceVersion : String
  metricsEnabled : Bool
  metricsPort : Int
  metricsInterval : Int
  prometheusEnabled : Bool
  otlpMetricsEnabled : Bool
  tracingEnabled : Bool
  tracingSampleRate : Float
  otlpTraceEnabled : Bool
  otlpEndpoint : String
  otlpHeaders : StringMap
  otlpInsecure : Bool
  resourceAttributes : StringMap

def defaultConfig : Config where
  serviceName := serviceName
  serviceVersion := serviceVersion
  metricsEnabled := true
  metricsPort := 9090
  metricsInterval := defaultMetricsInterval
  prometheusEnabled := true
  otlpMetricsEnabled := false
  tracingEnabled := false
  tracingSampleRate := 0.1
  otlpTraceEnabled := false
  otlpEndpoint := defaultOTLPEndpoint
  otlpHeaders := []
  otlpInsecure := true
  resourceAttributes := [("service.name", serviceName), ("service.version", serviceVersion)]

def parseBool (value : String) (defaultValue : Bool) : Bool :=
  match toLower value with
  | "true" | "1" | "yes" | "on" => true
  | "false" | "0" | "no" | "off" => false
  | _ => defaultValue

def addPair (result : StringMap) (pair : String) : StringMap :=
  match splitN pair '=' 2 with
  | [k, v] => result.set (trimSpace k) (trimSpace v)
  | _ => result

def parseKeyValuePairs (input : String) : StringMap := (split input ',').foldl addPair []

/-- `parseHeaders`: its body is `parseKeyValuePairs`'s. -/
def parseHeaders (headers : String) : StringMap := parseKeyValuePairs headers

-- ---------------------------------------------------------------------------
-- The key=value format
-- ---------------------------------------------------------------------------

/-- `k=v` pairs joined by commas, the form `OTEL_RESOURCE_ATTRIBUTES` and
`OTEL_EXPORTER_OTLP_HEADERS` take. -/
def renderPairs (kvs : List (String × String)) : String :=
  ⟨[','].intercalate (kvs.map fun kv => kv.1.data ++ '=' :: kv.2.data)⟩

/-- A pair the parser reads back: no `,` in it, no `=` in its key, no space around either side. -/
def Renderable (kv : String × String) : Prop :=
  ',' ∉ kv.1.data ∧ '=' ∉ kv.1.data ∧ ',' ∉ kv.2.data ∧ trimSpace kv.1 = kv.1 ∧ trimSpace kv.2 = kv.2

instance : DecidablePred Renderable := fun _ => inferInstanceAs (Decidable (_ ∧ _))

theorem addPair_render {result : StringMap} {kv : String × String} (h : Renderable kv) :
    addPair result ⟨kv.1.data ++ '=' :: kv.2.data⟩ = result.set kv.1 kv.2 := by
  obtain ⟨-, hkey, -, hk, hv⟩ := h
  simp [addPair, splitN_two hkey, hk, hv]

theorem split_renderPairs {kvs : List (String × String)} (hne : kvs ≠ []) (h : ∀ kv ∈ kvs, Renderable kv) :
    split (renderPairs kvs) ',' = kvs.map fun kv => ⟨kv.1.data ++ '=' :: kv.2.data⟩ := by
  have hsep : ∀ p ∈ kvs.map (fun kv => (⟨kv.1.data ++ '=' :: kv.2.data⟩ : String)), ',' ∉ p.data := by
    simp only [List.mem_map]
    rintro _ ⟨kv, hkv, rfl⟩
    obtain ⟨hk, -, hv, -⟩ := h kv hkv
    simp [hk, hv]
  simpa [renderPairs, List.map_map] using split_intercalate (by simpa using hne) hsep

theorem parseKeyValuePairs_renderPairs {kvs : List (String × String)} (h : ∀ kv ∈ kvs, Renderable kv) :
    parseKeyValuePairs (renderPairs kvs) = StringMap.setAll [] kvs := by
  cases kvs with
  | nil => rfl
  | cons kv kvs =>
    rw [parseKeyValuePairs, split_renderPairs (List.cons_ne_nil _ _) h, List.foldl_map, StringMap.setAll]
    generalize ([] : StringMap) = acc
    induction kvs generalizing kv acc with
    | nil => simp [addPair_render (h kv (List.mem_cons_self _ _))]
    | cons kv' kvs ih =>
      rw [List.foldl_cons, addPair_render (h kv (List.mem_cons_self _ _)), List.foldl_cons]
      exact ih kv' (fun x hx => h x (List.mem_cons_of_mem _ hx)) _

/-- Renderable pairs joined as `k=v` by commas read back as the map that gives
each key the value of its last pair, and no other key a value. -/
theorem parseKeyValuePairs_round_trip (kvs : List (String × String)) (h : ∀ kv ∈ kvs, Renderable kv)
    (key : String) : (parseKeyValuePairs (renderPairs kvs)).get? key = StringMap.get? kvs.reverse key := by
  rw [parseKeyValuePairs_renderPairs h, StringMap.get?_setAll]
  exact Option.or_none

/-- Three attributes, `service.name` given twice: the last one is read. -/
theorem resource_attributes_read_back :
    (∀ kv ∈ [("service.name", "pruner"), ("deployment.environment", "prod"), ("service.name", "pruner-2")],
      Renderable kv) ∧
    (parseKeyValuePairs (renderPairs [("service.name", "pruner"), ("deployment.environment", "prod"),
        ("service.name", "pruner-2")])).get? "service.name" =
      StringMap.get? [("service.name", "pruner"), ("deployment.environment", "prod"),
        ("service.name", "pruner-2")].reverse "service.name" :=
  have h : ∀ kv ∈ [("service.name", "pruner"), ("deployment.environment", "prod"), ("service.name", "pruner-2")],
      Renderable kv := by
    decide
  ⟨h, parseKeyValuePairs_round_trip _ h _⟩

/-- Spaces are trimmed, a pair without `=` is skipped, and a value keeps its own `=`. -/
example : parseKeyValuePairs " a = 1 ,junk,b=x=y" = [("b", "x=y"), ("a", "1")] := by decide

section Env

variable (Atoi : String → Option Int) (ParseDuration : String → Option Int) (ParseFloat : String → Option Float)

/-- The `if v := os.Getenv(name); v != "" { ... }` blocks of `LoadConfigFromEnv`,
in order: each variable's name and the update its block makes with the value. -/
def envOverrides : List (String × (String → Config → Config)) :=
  [("OTEL_SERVICE_NAME", fun name config =>
      { config with serviceName := name, resourceAttributes := config.resourceAttributes.set "service.name" name }),
   ("OTEL_SERVICE_VERSION", fun version config =>
      { config with serviceVersion := version,
                    resourceAttributes := config.resourceAttributes.set "service.version" version }),
   ("METRICS_ENABLED", fun enabled config => { config with metricsEnabled := parseBool enabled true }),
   ("METRICS_PORT", fun port config => { config with metricsPort := (Atoi port).getD config.metricsPort }),
   ("METRICS_INTERVAL", fun interval config =>
      { config with metricsInterval := (ParseDuration interval).getD config.metricsInterval }),
   ("PROMETHEUS_ENABLED", fun enabled config => { config with prometheusEnabled := parseBool enabled true }),
   ("OTLP_METRICS_ENABLED", fun enabled config => { config with otlpMetricsEnabled := parseBool enabled false }),
   ("TRACING_ENABLED", fun enabled config => { config with tracingEnabled := parseBool enabled false }),
   ("TRACING_SAMPLE_RATE", fun rate config =>
      { config with tracingSampleRate := (ParseFloat rate).getD config.tracingSampleRate }),
   ("OTLP_TRACE_ENABLED", fun enabled config => { config with otlpTraceEnabled := parseBool enabled false }),
   ("OTEL_EXPORTER_OTLP_ENDPOINT", fun endpoint config => { config with otlpEndpoint := endpoint }),
   ("OTEL_EXPORTER_OTLP_INSECURE", fun insecure config => { config with otlpInsecure := parseBool insecure true }),
   ("OTEL_EXPORTER_OTLP_HEADERS", fun headers config => { config with otlpHeaders := parseHeaders headers }),
   ("OTEL_RESOURCE_ATTRIBUTES", fun attrs config =>
      { config with resourceAttributes := config.resourceAttributes.setAll (parseKeyValuePairs attrs) })]

def whenSet (getenv : String → String) (config : Config) (block : String × (String → Config → Config)) :
    Config :=
  if getenv block.1 ≠ "" then block.2 (getenv block.1) config else config

/-- `LoadConfigFromEnv`, with `os.Getenv` as `getenv`. -/
def loadConfigFromEnv (getenv : String → String) : Config :=
  (envOverrides Atoi ParseDuration ParseFloat).foldl (whenSet getenv) defaultConfig

theorem parseKeyValuePairs_keys_nodup (input : String) : ((parseKeyValuePairs input).map Prod.fst).Nodup := by
  suffices ∀ (pairs : List String) (acc : StringMap), (acc.map Prod.fst).Nodup →
      ((pairs.foldl addPair acc).map Prod.fst).Nodup from this _ [] List.nodup_nil
  intro pairs
  induction pairs with
  | nil => exact fun _ h => h
  | cons pair pairs ih =>
    intro acc h
    refine ih _ ?_
    unfold addPair
    split
    · exact StringMap.keys_nodup_set h _ _
    · exact h

theorem parseKeyValuePairs_empty : parseKeyValuePairs "" = [] := rfl

/-- The resource's `service.name`: the one `OTEL_RESOURCE_ATTRIBUTES` names,
when it names one, and the service name otherwise. The service name itself
comes from `OTEL_SERVICE_NAME` alone. -/
theorem loadConfigFromEnv_service_name (getenv : String → String) :
    (loadConfigFromEnv Atoi ParseDuration ParseFloat getenv).serviceName =
      (if getenv "OTEL_SERVICE_NAME" ≠ "" then getenv "OTEL_SERVICE_NAME" else serviceName) ∧
    (loadConfigFromEnv Atoi ParseDuration ParseFloat getenv).resourceAttributes.get? "service.name" =
      some (((parseKeyValuePairs (getenv "OTEL_RESOURCE_ATTRIBUTES")).get? "service.name").getD
        (loadConfigFromEnv Atoi ParseDuration ParseFloat getenv).serviceName) := by
  simp only [loadConfigFromEnv, envOverrides, List.foldl_cons, List.foldl_nil, whenSet,
    apply_ite Config.serviceName, apply_ite Config.resourceAttributes, ite_self]
  refine ⟨rfl, ?_⟩
  have hbase : ((if getenv "OTEL_SERVICE_VERSION" ≠ "" then
        (if getenv "OTEL_SERVICE_NAME" ≠ "" then
          defaultConfig.resourceAttributes.set "service.name" (getenv "OTEL_SERVICE_NAME")
        else defaultConfig.resourceAttributes).set "service.version" (getenv "OTEL_SERVICE_VERSION")
      else if getenv "OTEL_SERVICE_NAME" ≠ "" then
        defaultConfig.resourceAttributes.set "service.name" (getenv "OTEL_SERVICE_NAME")
      else defaultConfig.resourceAttributes).get? "service.name") =
      some (if getenv "OTEL_SERVICE_NAME" ≠ "" then getenv "OTEL_SERVICE_NAME" else defaultConfig.serviceName) := by
    split_ifs <;> simp [StringMap.get?_set, defaultConfig, StringMap.get?]
  by_cases ha : getenv "OTEL_RESOURCE_ATTRIBUTES" = ""
  · simp only [ha, ne_eq, not_true_eq_false, if_false, parseKeyValuePairs_empty, StringMap.get?,
      Option.getD_none] at hbase ⊢
    exact hbase
  · rw [if_pos ha, StringMap.get?_setAll, StringMap.get?_reverse (parseKeyValuePairs_keys_nodup _), hbase]
    cases (parseKeyValuePairs (getenv "OTEL_RESOURCE_ATTRIBUTES")).get? "service.name" <;> rfl

end Env

end TektonPruner.Observability
