import TektonPruner.Config.Resolve

/-!
# The config store as a state machine

The store changes only through `LoadGlobalConfig` and `DeleteNamespacedSpec`
(`UpdateNamespacedSpec` is commented out in the source). `LoadGlobalConfig`
decodes the ConfigMap text with `yaml.Unmarshal`, an external decoder taken
here as a parameter, and stores the result without checking it. Nothing ever
adds to the namespaced map, so it stays empty in every reachable state, and
with it empty the enforcement level cannot change a resolved value.

An enforcement level outside the three names, which the decoder passes
through, makes `getResourceFieldData` return `nil` even when the global root
sets the field.
-/

namespace TektonPruner.Config

variable (unmarshal : String → Except String PrunerConfig)

/-- `LoadGlobalConfig`. `doc` is `configMap.Data[PrunerGlobalConfigKey]`, which
is `""` when the data or the key is missing. Replacing a nil `Namespaces` or
`namespacedConfig` map by an empty one changes no lookup, so it is not
written out. -/
def PrunerConfigStore.loadGlobalConfig (ps : PrunerConfigStore) (doc : String) :
    Except String PrunerConfigStore := do
  let globalConfig ← if doc ≠ "" then unmarshal doc else pure default
  pure { ps with globalConfig := globalConfig }

def PrunerConfigStore.deleteNamespacedSpec (ps : PrunerConfigStore) (ns : String) :
    PrunerConfigStore :=
  { ps with namespacedConfig := ps.namespacedConfig.filter (·.1 != ns) }

theorem PrunerConfigStore.loadGlobalConfig_namespacedConfig {ps ps' : PrunerConfigStore}
    {doc : String} (h : ps.loadGlobalConfig unmarshal doc = .ok ps') :
    ps'.namespacedConfig = ps.namespacedConfig := by
  unfold PrunerConfigStore.loadGlobalConfig at h
  split at h
  · cases hu : unmarshal doc <;> simp_all [bind, Except.bind, pure, Except.pure]
    exact h ▸ rfl
  · simp only [bind, Except.bind, pure, Except.pure, Except.ok.injEq] at h
    exact h ▸ rfl

-- ---------------------------------------------------------------------------
-- Levels outside the three names
-- ---------------------------------------------------------------------------

/-- A level the resolution switch knows, or the empty level that means "not set here". -/
def ValidLevel (level : EnforcedConfigLevel) : Prop :=
  level = "" ∨ level = enforcedConfigLevelResource ∨ level = enforcedConfigLevelNamespace ∨
    level = enforcedConfigLevelGlobal

/-- The levels `getEnforcedConfigLevel` can read: the global root's, and those of
every namespace entry and selector of the global config. -/
def PrunerConfig.LevelsValid (cfg : PrunerConfig) : Prop :=
  ValidLevel cfg.enforcedConfigLevel ∧
    ∀ e ∈ cfg.namespaces, ValidLevel e.2.enforcedConfigLevel ∧
      ∀ r ∈ e.2.pipelineRuns ++ e.2.taskRuns, ValidLevel r.selector.enforcedConfigLevel

theorem lookup_mem {ns : String} {spec : NamespaceSpec} {l : Namespaces}
    (h : l.lookup ns = some spec) : (ns, spec) ∈ l := by
  induction l with
  | nil => simp [List.lookup] at h
  | cons kv l ih =>
    obtain ⟨k, v⟩ := kv
    simp only [List.lookup] at h
    split at h
    · rename_i hk
      cases h
      simp [beq_iff_eq.mp hk]
    · exact List.mem_cons_of_mem _ (ih h)

theorem NamespaceSpec.selectorFor_mem {s : NamespaceSpec} {name : String}
    {resourceType : PrunerResourceType} {sel : Selector} (h : s.selectorFor name resourceType = some sel) :
    ∃ r ∈ s.pipelineRuns ++ s.taskRuns, r.selector = sel := by
  obtain ⟨r, hr, rfl⟩ := Option.map_eq_some'.mp h
  refine ⟨r, ?_, rfl⟩
  have := List.mem_of_find?_eq_some hr
  cases resourceType <;> simp_all [NamespaceSpec.resourceSpecs]

theorem PrunerConfigStore.getEnforcedConfigLevelFromNamespaceSpec_valid (ps : PrunerConfigStore)
    (hvalid : ps.globalConfig.LevelsValid) (namespacesSpec : Namespaces) (ns name : String)
    (resourceType : PrunerResourceType) :
    ValidLevel (ps.getEnforcedConfigLevelFromNamespaceSpec namespacesSpec ns name resourceType) := by
  unfold getEnforcedConfigLevelFromNamespaceSpec
  split
  · exact .inl rfl
  · rename_i spec hspec
    have hentry := hvalid.2 _ (lookup_mem hspec)
    split
    · rename_i sel hsel
      obtain ⟨r, hr, rfl⟩ := NamespaceSpec.selectorFor_mem hsel
      split_ifs
      · exact hentry.2 r hr
      · exact hentry.1
    · exact hentry.1

theorem PrunerConfigStore.getEnforcedConfigLevel_mem_chain_levels (ps : PrunerConfigStore)
    (hvalid : ps.globalConfig.LevelsValid) (ns name : String) (resourceType : PrunerResourceType) :
    ps.getEnforcedConfigLevel ns name resourceType ∈
      [enforcedConfigLevelResource, enforcedConfigLevelNamespace, enforcedConfigLevelGlobal] := by
  have hg := ps.getEnforcedConfigLevelFromNamespaceSpec_valid hvalid ps.globalConfig.namespaces ns name
    resourceType
  have hn := ps.getEnforcedConfigLevelFromNamespaceSpec_valid hvalid ps.namespacedConfig ns name
    resourceType
  have key : ∀ level, ValidLevel level → level ≠ "" →
      level ∈ [enforcedConfigLevelResource, enforcedConfigLevelNamespace, enforcedConfigLevelGlobal] := by
    rintro level (h | h) hne
    · exact absurd h hne
    · simpa using h
  unfold getEnforcedConfigLevel
  dsimp only
  split_ifs with h1 h2 h3
  · exact key _ hg h1
  · exact key _ hvalid.1 h2
  · exact key _ hn h3
  · exact List.mem_cons_self _ _

theorem firstSet_isSome_of_mem {l : List (Option Int32)} {v : Int32} (h : some v ∈ l) :
    (firstSet l).isSome := by
  induction l with
  | nil => simp at h
  | cons x xs ih =>
    cases x with
    | some _ => rfl
    | none => simpa using ih (by simpa using h)

/-- When every level the global config names is valid, a global default set at
the root always comes through. -/
theorem PrunerConfigStore.getResourceField_isSome_of_globalRoot (ps : PrunerConfigStore)
    (hvalid : ps.globalConfig.LevelsValid) (resourceType : PrunerResourceType)
    (fieldType : PrunerFieldType) (ns name : String)
    (hroot : (ps.globalConfig.field fieldType).isSome) :
    (ps.getResourceField resourceType fieldType ns name).isSome := by
  obtain ⟨v, hv⟩ := Option.isSome_iff_exists.mp hroot
  have hlevel := ps.getEnforcedConfigLevel_mem_chain_levels hvalid ns name resourceType
  have hmem : Layer.globalRoot ∈ chain (ps.getEnforcedConfigLevel ns name resourceType) :=
    List.mem_of_getLast?_eq_some (chain_getLast? _ hlevel)
  unfold getResourceField
  rw [getResourceFieldData_eq_firstSet]
  exact firstSet_isSome_of_mem (List.mem_map.mpr ⟨_, hmem, hv⟩)

/-- The document
```
ttlSecondsAfterFinished: 3600
namespaces:
  ns1:
    enforcedConfigLevel: namespace
    ttlSecondsAfterFinished: 600
    pipelineruns:
      - selector:
          name: build
          ttlSecondsAfterFinished: 60
```
-/
def layeredDocument : String :=
  "ttlSecondsAfterFinished: 3600\nnamespaces:\n  ns1:\n    enforcedConfigLevel: namespace\n" ++
    "    ttlSecondsAfterFinished: 600\n    pipelineruns:\n      - selector:\n          name: build\n" ++
    "          ttlSecondsAfterFinished: 60\n"

/-- What `yaml.Unmarshal` makes of `layeredDocument`: a TTL at the global root,
at the entry's root and on the entry's selector. -/
def layeredConfig : PrunerConfig :=
  { (default : PrunerConfig) with
    ttlSecondsAfterFinished := some 3600
    namespaces := [("ns1", { (default : NamespaceSpec) with
      enforcedConfigLevel := enforcedConfigLevelNamespace
      ttlSecondsAfterFinished := some 600
      pipelineRuns := [⟨{ (default : Selector) with name := "build", ttlSecondsAfterFinished := some 60 }⟩] })] }

/-- In the layered store the TTL resolves for a pipeline of a namespace the
config does not name, from the global root. -/
theorem layered_store_ttl_resolves :
    layeredConfig.LevelsValid ∧ (layeredConfig.field .ttlSecondsAfterFinished).isSome ∧
      (({ PrunerConfigStore.init with globalConfig := layeredConfig } : PrunerConfigStore).getResourceField
        .pipelineRun .ttlSecondsAfterFinished "other" "deploy").isSome := by
  have hvalid : layeredConfig.LevelsValid := by
    unfold PrunerConfig.LevelsValid ValidLevel
    decide
  exact ⟨hvalid, rfl, PrunerConfigStore.getResourceField_isSome_of_globalRoot
    { PrunerConfigStore.init with globalConfig := layeredConfig } hvalid .pipelineRun .ttlSecondsAfterFinished
    "other" "deploy" rfl⟩

/-- The document
```
ttlSecondsAfterFinished: 300
namespaces:
  ns1:
    enforcedConfigLevel: Namespace
```
-/
def capitalisedLevelDocument : String :=
  "ttlSecondsAfterFinished: 300\nnamespaces:\n  ns1:\n    enforcedConfigLevel: Namespace\n"

def capitalisedLevelConfig : PrunerConfig :=
  { (default : PrunerConfig) with
    ttlSecondsAfterFinished := some 300
    namespaces := [("ns1", { (default : NamespaceSpec) with enforcedConfigLevel := "Namespace" })] }

theorem global_ttl_lost_under_unknown_level :
    PrunerConfigStore.init.loadGlobalConfig (fun _ => .ok capitalisedLevelConfig) capitalisedLevelDocument =
      .ok { PrunerConfigStore.init with globalConfig := capitalisedLevelConfig } ∧
    capitalisedLevelConfig.ttlSecondsAfterFinished = some 300 ∧
    ({ PrunerConfigStore.init with globalConfig := capitalisedLevelConfig } : PrunerConfigStore).getPipelineTTLSecondsAfterFinished
      "ns1" "build" = none :=
  ⟨rfl, rfl, by decide⟩

/-- The states the store can be in: the initial one, then any sequence of
loads (of any document) and deletions (of any namespace). -/
inductive PrunerConfigStore.Reachable : PrunerConfigStore → Prop
  | init : Reachable PrunerConfigStore.init
  | load {ps ps' : PrunerConfigStore} (doc : String) :
      Reachable ps → ps.loadGlobalConfig unmarshal doc = .ok ps' → Reachable ps'
  | delete {ps : PrunerConfigStore} (ns : String) :
      Reachable ps → Reachable (ps.deleteNamespacedSpec ns)

theorem PrunerConfigStore.Reachable.namespacedConfig_eq_nil {ps : PrunerConfigStore}
    (h : ps.Reachable unmarshal) : ps.namespacedConfig = [] := by
  induction h with
  | init => rfl
  | load _ _ hload ih => rw [loadGlobalConfig_namespacedConfig unmarshal hload, ih]
  | delete _ _ ih => simp [deleteNamespacedSpec, ih]

theorem getResourceFieldData_levels_agree_of_nil (globalSpec : PrunerConfig) (ns name : String)
    (resourceType : PrunerResourceType) (fieldType : PrunerFieldType) :
    getResourceFieldData [] globalSpec ns name resourceType fieldType enforcedConfigLevelResource =
      getResourceFieldData [] globalSpec ns name resourceType fieldType enforcedConfigLevelNamespace ∧
    getResourceFieldData [] globalSpec ns name resourceType fieldType enforcedConfigLevelNamespace =
      getResourceFieldData [] globalSpec ns name resourceType fieldType enforcedConfigLevelGlobal := by
  simp only [getResourceFieldData_eq_firstSet]
  constructor <;> simp [chain, precedence, layerValue, layerSettings, entryFor, enforcedConfigLevelResource,
    enforcedConfigLevelNamespace, enforcedConfigLevelGlobal]

/-- In every reachable state the enforcement level never changes a resolved
TTL or history limit. -/
theorem reachable_resolution_level_independent (ps : PrunerConfigStore)
    (h : ps.Reachable unmarshal) (ns name : String) (resourceType : PrunerResourceType)
    (fieldType : PrunerFieldType) :
    getResourceFieldData ps.namespacedConfig ps.globalConfig ns name resourceType fieldType
        enforcedConfigLevelResource =
      getResourceFieldData ps.namespacedConfig ps.globalConfig ns name resourceType fieldType
        enforcedConfigLevelNamespace ∧
    getResourceFieldData ps.namespacedConfig ps.globalConfig ns name resourceType fieldType
        enforcedConfigLevelNamespace =
      getResourceFieldData ps.namespacedConfig ps.globalConfig ns name resourceType fieldType
        enforcedConfigLevelGlobal := by
  rw [h.namespacedConfig_eq_nil]
  exact getResourceFieldData_levels_agree_of_nil _ _ _ _ _

theorem reachable_resolution_level_independent_after_load :
    let ps := { PrunerConfigStore.init with globalConfig := layeredConfig }
    ps.Reachable (fun _ => .ok layeredConfig) ∧
    (getResourceFieldData ps.namespacedConfig ps.globalConfig "ns1" "build" .pipelineRun
        .ttlSecondsAfterFinished enforcedConfigLevelResource =
      getResourceFieldData ps.namespacedConfig ps.globalConfig "ns1" "build" .pipelineRun
        .ttlSecondsAfterFinished enforcedConfigLevelNamespace ∧
    getResourceFieldData ps.namespacedConfig ps.globalConfig "ns1" "build" .pipelineRun
        .ttlSecondsAfterFinished enforcedConfigLevelNamespace =
      getResourceFieldData ps.namespacedConfig ps.globalConfig "ns1" "build" .pipelineRun
        .ttlSecondsAfterFinished enforcedConfigLevelGlobal) ∧
    getResourceFieldData ps.namespacedConfig ps.globalConfig "ns1" "build" .pipelineRun
        .ttlSecondsAfterFinished enforcedConfigLevelGlobal = some 60 :=
  have h : PrunerConfigStore.Reachable (fun _ => .ok layeredConfig)
      { PrunerConfigStore.init with globalConfig := layeredConfig } :=
    .load layeredDocument .init rfl
  ⟨h, reachable_resolution_level_independent _ _ h _ _ _ _, by decide⟩

-- ---------------------------------------------------------------------------
-- The level lookup ignores its map
-- ---------------------------------------------------------------------------

def namespaceLevelMap : Namespaces :=
  [("ns", { (default : NamespaceSpec) with enforcedConfigLevel := enforcedConfigLevelNamespace })]

/-- `GetEnforcedConfigLevelFromNamespaceSpec` answers from the store's global
config whatever map it is passed, so `getEnforcedConfigLevel` never reads the
namespaced config's level: when the global config sets none for the namespace,
name and kind, the level is the default. On the store the process starts with,
a map that sets the level of `ns` gives no level. -/
theorem namespaced_level_never_read :
    (∀ (ps : PrunerConfigStore) (namespacesSpec : Namespaces) (ns name : String) (resourceType : PrunerResourceType),
      ps.getEnforcedConfigLevelFromNamespaceSpec namespacesSpec ns name resourceType =
        ps.getEnforcedConfigLevelFromNamespaceSpec ps.globalConfig.namespaces ns name resourceType) ∧
    (∀ (ps : PrunerConfigStore) (ns name : String) (resourceType : PrunerResourceType),
      ps.getEnforcedConfigLevelFromNamespaceSpec ps.globalConfig.namespaces ns name resourceType = "" →
      ps.globalConfig.enforcedConfigLevel = "" →
      ps.getEnforcedConfigLevel ns name resourceType = enforcedConfigLevelResource) ∧
    PrunerConfigStore.init.Reachable unmarshal ∧
    (namespaceLevelMap.lookup "ns").map (·.enforcedConfigLevel) = some enforcedConfigLevelNamespace ∧
    PrunerConfigStore.init.getEnforcedConfigLevelFromNamespaceSpec namespaceLevelMap "ns" "build" .pipelineRun = "" := by
  refine ⟨fun ps namespacesSpec _ _ _ => ps.getEnforcedConfigLevelFromNamespaceSpec_any_map namespacesSpec _ _ _ _,
    fun ps ns name resourceType hglobal hroot => ?_, .init, rfl, rfl⟩
  have hnamespaced := (ps.getEnforcedConfigLevelFromNamespaceSpec_any_map ps.namespacedConfig
    ps.globalConfig.namespaces ns name resourceType).trans hglobal
  simp [PrunerConfigStore.getEnforcedConfigLevel, hglobal, hroot, hnamespaced]

end TektonPruner.Config
