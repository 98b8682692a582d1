import TektonPruner.Go.Strings
import TektonPruner.Store.Object

/-!
# The metrics configuration from a ConfigMap

`ParseMetricsConfigFromConfigMap` starts from `DefaultMetricsConfig` and takes
each of the four keys the ConfigMap sets: the protocol trimmed and lowercased,
the endpoint and the path trimmed, and the enabled flag when `strconv.ParseBool`
accepts its trimmed value; the protocol `none` then turns metrics off.

What it returns is normal: a lowercase trimmed protocol, a trimmed endpoint
and path, and metrics off under `none`. A normal config written back under the
four keys parses to itself, so the parser's every result is a fixed point. As
`strings.ToLower` is modelled on ASCII strings, the image of the parser is
stated for ConfigMaps whose values are ASCII.
-/

namespace TektonPruner.Metrics

open strings

def metricsProtocolKey : String := "metrics-protocol"
def metricsEndpointKey : String := "metrics-endpoint"
def metricsEnabledKey : String := "metrics.enabled"
def metricsPathKey : String := "metrics.path"

structure MetricsConfig where
  enabled : Bool
  protocol : String
  endpoint : String
  path : String
  deriving DecidableEq, Repr

def defaultMetricsConfig : MetricsConfig :=
  { enabled := true, protocol := "prometheus", endpoint := ":9090", path := "/metrics" }

/-- `ParseMetricsConfigFromConfigMap`, given the ConfigMap's `Data` (`none` for a
nil ConfigMap; a nil `Data` map is the empty one). -/
def parseMetricsConfigFromConfigMap : Option StringMap → MetricsConfig
  | none => defaultMetricsConfig
  | some data =>
    let config := defaultMetricsConfig
    let config := match data.get? metricsProtocolKey with
      | some protocol => { config with protocol := toLower (trimSpace protocol) }
      | none => config
    let config := match data.get? metricsEndpointKey with
      | some endpoint => { config with endpoint := trimSpace endpoint }
      | none => config
    let config := match data.get? metricsPathKey with
      | some path => { config with path := trimSpace path }
      | none => config
    let config := match data.get? metricsEnabledKey with
      | some enabled =>
        match strconv.parseBool (trimSpace enabled) with
        | some parsed => { config with enabled := parsed }
        | none => config
      | none => config
    if config.protocol = "none" then { config with enabled := false } else config

/-- A config written back under the four keys, the flag as `strconv.FormatBool` writes it. -/
def MetricsConfig.toData (config : MetricsConfig) : StringMap :=
  [(metricsProtocolKey, config.protocol), (metricsEndpointKey, config.endpoint), (metricsPathKey, config.path),
   (metricsEnabledKey, strconv.formatBool config.enabled)]

/-- The parser field by field: each key read on its own, and `none` clearing the flag. -/
theorem parseMetricsConfigFromConfigMap_some (data : StringMap) :
    parseMetricsConfigFromConfigMap (some data) =
      let protocol := ((data.get? metricsProtocolKey).map fun p => toLower (trimSpace p)).getD "prometheus"
      { enabled := protocol != "none" &&
          ((data.get? metricsEnabledKey).bind fun e => strconv.parseBool (trimSpace e)).getD true
        protocol
        endpoint := ((data.get? metricsEndpointKey).map trimSpace).getD ":9090"
        path := ((data.get? metricsPathKey).map trimSpace).getD "/metrics" } := by
  simp only [parseMetricsConfigFromConfigMap]
  cases data.get? metricsProtocolKey <;> cases data.get? metricsEndpointKey <;>
    cases data.get? metricsPathKey <;> cases data.get? metricsEnabledKey <;> dsimp only <;>
    (repeat' split) <;> simp_all [defaultMetricsConfig]

example : parseMetricsConfigFromConfigMap (some [(metricsProtocolKey, " None\n"), (metricsEnabledKey, "true")]) =
    { enabled := false, protocol := "none", endpoint := ":9090", path := "/metrics" } := by decide

/-- What the parser returns: a lowercase trimmed protocol, a trimmed endpoint
and path, and metrics off under `none`. -/
def MetricsConfig.Normal (config : MetricsConfig) : Prop :=
  toLower (trimSpace config.protocol) = config.protocol ∧ trimSpace config.endpoint = config.endpoint ∧
    trimSpace config.path = config.path ∧ (config.protocol = "none" → config.enabled = false)

theorem getD_map_fixed (f : String → String) (hf : ∀ s, f (f s) = f s) {d : String} (hd : f d = d)
    (o : Option String) : f ((o.map f).getD d) = (o.map f).getD d := by
  cases o <;> simp only [Option.map_none', Option.map_some', Option.getD_none, Option.getD_some, hf, hd]

theorem toLower_trimSpace_idem (s : String) : toLower (trimSpace (toLower (trimSpace s))) = toLower (trimSpace s) := by
  rw [trimSpace_toLower, trimSpace_trimSpace, toLower_toLower]

theorem parseMetricsConfigFromConfigMap_normal : ∀ configMap : Option StringMap,
    (parseMetricsConfigFromConfigMap configMap).Normal
  | none => by unfold MetricsConfig.Normal; decide
  | some data => by
    rw [parseMetricsConfigFromConfigMap_some]
    refine ⟨getD_map_fixed (fun p => toLower (trimSpace p)) toLower_trimSpace_idem (by decide) _,
      getD_map_fixed trimSpace trimSpace_trimSpace (by decide) _,
      getD_map_fixed trimSpace trimSpace_trimSpace (by decide) _, fun h => ?_⟩
    dsimp only at h ⊢
    rw [h, bne_self_eq_false, Bool.false_and]

theorem parseMetricsConfigFromConfigMap_toData {config : MetricsConfig} (h : config.Normal) :
    parseMetricsConfigFromConfigMap (some config.toData) = config := by
  obtain ⟨hp, he, hpath, hnone⟩ := h
  have henabled : (config.protocol != "none" && config.enabled) = config.enabled := by
    by_cases hn : config.protocol = "none" <;> simp [hn, hnone]
  rw [parseMetricsConfigFromConfigMap_some]
  simp [MetricsConfig.toData, StringMap.get?, metricsProtocolKey, metricsEndpointKey, metricsPathKey,
    metricsEnabledKey, hp, he, hpath, henabled]

def MetricsConfig.IsAscii (config : MetricsConfig) : Prop :=
  TektonPruner.IsAscii config.protocol ∧ TektonPruner.IsAscii config.endpoint ∧ TektonPruner.IsAscii config.path

theorem isAscii_getD_map {f : String → String} (hf : ∀ s, TektonPruner.IsAscii s → TektonPruner.IsAscii (f s))
    {data : StringMap} (hdata : ∀ kv ∈ data, TektonPruner.IsAscii kv.2) (k : String) {d : String}
    (hd : TektonPruner.IsAscii d) : TektonPruner.IsAscii (((data.get? k).map f).getD d) := by
  cases h : data.get? k with
  | none => exact hd
  | some v => exact hf v (hdata _ (StringMap.mem_of_get?_eq_some h))

theorem parseMetricsConfigFromConfigMap_isAscii {configMap : Option StringMap}
    (h : ∀ data ∈ configMap, ∀ kv ∈ data, TektonPruner.IsAscii kv.2) :
    (parseMetricsConfigFromConfigMap configMap).IsAscii := by
  cases configMap with
  | none => unfold MetricsConfig.IsAscii; decide
  | some data =>
    have hdata := h data rfl
    rw [parseMetricsConfigFromConfigMap_some]
    exact ⟨isAscii_getD_map (fun _ hs => hs.trimSpace.toLower) hdata _ (by decide),
      isAscii_getD_map (fun _ hs => hs.trimSpace) hdata _ (by decide),
      isAscii_getD_map (fun _ hs => hs.trimSpace) hdata _ (by decide)⟩

theorem MetricsConfig.toData_isAscii {config : MetricsConfig} (h : config.IsAscii) :
    ∀ kv ∈ config.toData, TektonPruner.IsAscii kv.2 := by
  obtain ⟨hp, he, hpath⟩ := h
  have hbool : TektonPruner.IsAscii (strconv.formatBool config.enabled) := by
    cases config.enabled <;> decide
  simp [MetricsConfig.toData, hp, he, hpath, hbool]

/-- On ConfigMaps whose values are ASCII, the configs the parser can return are
exactly the normal ASCII ones, and each of them is read back unchanged from its
own keys. -/
theorem parseMetricsConfigFromConfigMap_image (config : MetricsConfig) :
    ((∃ configMap : Option StringMap, (∀ data ∈ configMap, ∀ kv ∈ data, TektonPruner.IsAscii kv.2) ∧
        parseMetricsConfigFromConfigMap configMap = config) ↔ config.Normal ∧ config.IsAscii) ∧
      ((∃ configMap : Option StringMap, (∀ data ∈ configMap, ∀ kv ∈ data, TektonPruner.IsAscii kv.2) ∧
        parseMetricsConfigFromConfigMap configMap = config) →
        parseMetricsConfigFromConfigMap (some config.toData) = config) := by
  have himage : (∃ configMap : Option StringMap, (∀ data ∈ configMap, ∀ kv ∈ data, TektonPruner.IsAscii kv.2) ∧
      parseMetricsConfigFromConfigMap configMap = config) → config.Normal ∧ config.IsAscii :=
    fun ⟨configMap, hascii, h⟩ =>
      h ▸ ⟨parseMetricsConfigFromConfigMap_normal configMap, parseMetricsConfigFromConfigMap_isAscii hascii⟩
  exact ⟨⟨himage, fun ⟨hn, ha⟩ => ⟨some config.toData,
      fun _ hd => Option.mem_some_iff.mp hd ▸ MetricsConfig.toData_isAscii ha,
      parseMetricsConfigFromConfigMap_toData hn⟩⟩,
    fun h => parseMetricsConfigFromConfigMap_toData (himage h).1⟩

end TektonPruner.Metrics
