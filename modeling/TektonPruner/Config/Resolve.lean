import TektonPruner.Config.Types

/-!
# Resolving a field through the layers

`getResourceFieldData` is a `switch` on the enforcement level whose cases fall
through: `resource` reads the namespaced selector, then falls into
`namespace`, which reads the namespaced root and falls into `global`, which
reads the global config's selector, its namespace root and the global root,
each only while nothing has been found. A level that is none of the three
matches no case and gives `nil`.

The second half reads the five layers from the config data directly, as a
chain of layers per level, and proves that the result is the first value set
along the level's chain. Forgetting the other fields, the selectors of other
names and kinds, or the entries of other namespaces changes no result.
-/

namespace TektonPruner.Config

def getFromPrunerConfigResourceLevel (namespacesSpec : Namespaces) (ns name : String)
    (resourceType : PrunerResourceType) (fieldType : PrunerFieldType) : Option Int32 :=
  (namespacesSpec.lookup ns).bind fun spec => (spec.selectorFor name resourceType).bind (·.field fieldType)

/-- The inline `spec, found := ...[namespace]; switch fieldType` block. -/
def getFromNamespaceRoot (namespacesSpec : Namespaces) (ns : String)
    (fieldType : PrunerFieldType) : Option Int32 :=
  (namespacesSpec.lookup ns).bind (·.field fieldType)

def getResourceFieldData (namespacedSpec : Namespaces) (globalSpec : PrunerConfig)
    (ns name : String) (resourceType : PrunerResourceType) (fieldType : PrunerFieldType)
    (enforcedConfigLevel : EnforcedConfigLevel) : Option Int32 :=
  -- `ttl.or x` is `if ttl == nil { ttl = x }`; `globalCase` is the tail the
  -- other two cases fall through to
  let globalCase (ttl : Option Int32) : Option Int32 :=
    ((ttl.or (getFromPrunerConfigResourceLevel globalSpec.namespaces ns name resourceType fieldType)).or
      (getFromNamespaceRoot globalSpec.namespaces ns fieldType)).or (globalSpec.field fieldType)
  let namespaceCase (ttl : Option Int32) : Option Int32 :=
    globalCase (ttl.or (getFromNamespaceRoot namespacedSpec ns fieldType))
  if enforcedConfigLevel = enforcedConfigLevelResource then
    namespaceCase (getFromPrunerConfigResourceLevel namespacedSpec ns name resourceType fieldType)
  else if enforcedConfigLevel = enforcedConfigLevelNamespace then namespaceCase none
  else if enforcedConfigLevel = enforcedConfigLevelGlobal then globalCase none
  else none

-- ---------------------------------------------------------------------------
-- The enforcement level
-- ---------------------------------------------------------------------------

set_option linter.unusedVariables false in
/-- Reads `ps.globalConfig.Namespaces` whatever map it is passed, as the source does. -/
def PrunerConfigStore.getEnforcedConfigLevelFromNamespaceSpec (ps : PrunerConfigStore)
    (namespacesSpec : Namespaces) (ns name : String) (resourceType : PrunerResourceType) :
    EnforcedConfigLevel :=
  match ps.globalConfig.namespaces.lookup ns with
  | none => ""
  | some namespaceSpec =>
    match namespaceSpec.selectorFor name resourceType with
    | some selector =>
      if selector.enforcedConfigLevel ≠ "" then selector.enforcedConfigLevel
      else namespaceSpec.enforcedConfigLevel
    | none => namespaceSpec.enforcedConfigLevel

def PrunerConfigStore.getEnforcedConfigLevel (ps : PrunerConfigStore) (ns name : String)
    (resourceType : PrunerResourceType) : EnforcedConfigLevel :=
  let fromGlobal :=
    ps.getEnforcedConfigLevelFromNamespaceSpec ps.globalConfig.namespaces ns name resourceType
  let fromNamespaced :=
    ps.getEnforcedConfigLevelFromNamespaceSpec ps.namespacedConfig ns name resourceType
  if fromGlobal ≠ "" then fromGlobal
  else if ps.globalConfig.enforcedConfigLevel ≠ "" then ps.globalConfig.enforcedConfigLevel
  else if fromNamespaced ≠ "" then fromNamespaced
  else enforcedConfigLevelResource

/-- The map argument is never read. -/
theorem PrunerConfigStore.getEnforcedConfigLevelFromNamespaceSpec_any_map (ps : PrunerConfigStore)
    (namespacesSpec namespacesSpec' : Namespaces) (ns name : String) (resourceType : PrunerResourceType) :
    ps.getEnforcedConfigLevelFromNamespaceSpec namespacesSpec ns name resourceType =
      ps.getEnforcedConfigLevelFromNamespaceSpec namespacesSpec' ns name resourceType := rfl

def PrunerConfigStore.getPipelineEnforcedConfigLevel (ps : PrunerConfigStore) (ns name : String) :
    EnforcedConfigLevel :=
  ps.getEnforcedConfigLevel ns name .pipelineRun

def PrunerConfigStore.getTaskEnforcedConfigLevel (ps : PrunerConfigStore) (ns name : String) :
    EnforcedConfigLevel :=
  ps.getEnforcedConfigLevel ns name .taskRun

-- ---------------------------------------------------------------------------
-- The six accessors
-- ---------------------------------------------------------------------------

/-- The body shared by the six `Get...` accessors: resolve the kind's level,
then the field at that level. -/
def PrunerConfigStore.getResourceField (ps : PrunerConfigStore) (resourceType : PrunerResourceType)
    (fieldType : PrunerFieldType) (ns name : String) : Option Int32 :=
  getResourceFieldData ps.namespacedConfig ps.globalConfig ns name resourceType fieldType
    (ps.getEnforcedConfigLevel ns name resourceType)

def PrunerConfigStore.getPipelineTTLSecondsAfterFinished (ps : PrunerConfigStore) (ns name : String) :=
  ps.getResourceField .pipelineRun .ttlSecondsAfterFinished ns name

def PrunerConfigStore.getPipelineSuccessHistoryLimitCount (ps : PrunerConfigStore) (ns name : String) :=
  ps.getResourceField .pipelineRun .successfulHistoryLimit ns name

def PrunerConfigStore.getPipelineFailedHistoryLimitCount (ps : PrunerConfigStore) (ns name : String) :=
  ps.getResourceField .pipelineRun .failedHistoryLimit ns name

def PrunerConfigStore.getTaskTTLSecondsAfterFinished (ps : PrunerConfigStore) (ns name : String) :=
  ps.getResourceField .taskRun .ttlSecondsAfterFinished ns name

def PrunerConfigStore.getTaskSuccessHistoryLimitCount (ps : PrunerConfigStore) (ns name : String) :=
  ps.getResourceField .taskRun .successfulHistoryLimit ns name

def PrunerConfigStore.getTaskFailedHistoryLimitCount (ps : PrunerConfigStore) (ns name : String) :=
  ps.getResourceField .taskRun .failedHistoryLimit ns name


-- ---------------------------------------------------------------------------
-- Layers, read from the data
-- ---------------------------------------------------------------------------

/-! The layers are read here from the config data as the precedence order names
them, and not through the helpers `getResourceFieldData` calls; the first
theorem below shows the two agree. -/

/-- The five places a field can be set for one namespace, name and kind. -/
inductive Layer
  | namespacedSelector
  | namespacedRoot
  | globalSelector
  | globalNamespaceRoot
  | globalRoot
  deriving DecidableEq, Repr

/-- The three values one place of the config can set. -/
structure Settings where
  ttlSecondsAfterFinished : Option Int32
  successfulHistoryLimit : Option Int32
  failedHistoryLimit : Option Int32
  deriving DecidableEq, Repr

def Settings.get (s : Settings) : PrunerFieldType → Option Int32
  | .ttlSecondsAfterFinished => s.ttlSecondsAfterFinished
  | .successfulHistoryLimit => s.successfulHistoryLimit
  | .failedHistoryLimit => s.failedHistoryLimit

def Selector.settings (s : Selector) : Settings :=
  ⟨s.ttlSecondsAfterFinished, s.successfulHistoryLimit, s.failedHistoryLimit⟩

def NamespaceSpec.settings (s : NamespaceSpec) : Settings :=
  ⟨s.ttlSecondsAfterFinished, s.successfulHistoryLimit, s.failedHistoryLimit⟩

def PrunerConfig.settings (s : PrunerConfig) : Settings :=
  ⟨s.ttlSecondsAfterFinished, s.successfulHistoryLimit, s.failedHistoryLimit⟩

def entryFor (m : Namespaces) (ns : String) : Option NamespaceSpec :=
  (m.find? fun e => e.1 = ns).map (·.2)

def NamespaceSpec.selectors (s : NamespaceSpec) : PrunerResourceType → List Selector
  | .pipelineRun => s.pipelineRuns.map (·.selector)
  | .taskRun => s.taskRuns.map (·.selector)

/-- The first selector named `name` of kind `resourceType`. -/
def NamespaceSpec.firstNamed (s : NamespaceSpec) (name : String) (resourceType : PrunerResourceType) :
    Option Selector :=
  (s.selectors resourceType).find? (·.name == name)

/-- What each layer sets for `ns`, `name` and `resourceType`; `none` where the
layer does not exist (no entry, or no selector of that name). -/
def layerSettings (namespacedSpec : Namespaces) (globalSpec : PrunerConfig) (ns name : String)
    (resourceType : PrunerResourceType) : Layer → Option Settings
  | .namespacedSelector => (entryFor namespacedSpec ns).bind fun e => (e.firstNamed name resourceType).map (·.settings)
  | .namespacedRoot => (entryFor namespacedSpec ns).map (·.settings)
  | .globalSelector => (entryFor globalSpec.namespaces ns).bind fun e => (e.firstNamed name resourceType).map (·.settings)
  | .globalNamespaceRoot => (entryFor globalSpec.namespaces ns).map (·.settings)
  | .globalRoot => some globalSpec.settings

def layerValue (namespacedSpec : Namespaces) (globalSpec : PrunerConfig) (ns name : String)
    (resourceType : PrunerResourceType) (fieldType : PrunerFieldType) (l : Layer) : Option Int32 :=
  (layerSettings namespacedSpec globalSpec ns name resourceType l).bind (·.get fieldType)

def precedence : List Layer :=
  [.namespacedSelector, .namespacedRoot, .globalSelector, .globalNamespaceRoot, .globalRoot]

/-- The layers a level consults, in the order it consults them. -/
def chain (level : EnforcedConfigLevel) : List Layer :=
  if level = enforcedConfigLevelResource then precedence
  else if level = enforcedConfigLevelNamespace then precedence.drop 1
  else if level = enforcedConfigLevelGlobal then precedence.drop 2
  else []

def firstSet : List (Option Int32) → Option Int32
  | [] => none
  | v :: vs => v.or (firstSet vs)

@[simp] theorem firstSet_nil : firstSet [] = none := rfl

@[simp] theorem firstSet_cons (v : Option Int32) (vs : List (Option Int32)) :
    firstSet (v :: vs) = v.or (firstSet vs) := rfl

-- ---------------------------------------------------------------------------
-- The code's helpers read the layers
-- ---------------------------------------------------------------------------

theorem lookup_eq_entryFor (m : Namespaces) (ns : String) : m.lookup ns = entryFor m ns := by
  induction m with
  | nil => rfl
  | cons e m ih =>
    obtain ⟨k, v⟩ := e
    by_cases h : k = ns
    · subst h; simp [List.lookup, entryFor]
    · have hne : (ns == k) = false := beq_false_of_ne (Ne.symm h)
      simpa [List.lookup, hne, entryFor, h] using ih

theorem selectorFor_eq_firstNamed (s : NamespaceSpec) (name : String) (resourceType : PrunerResourceType) :
    s.selectorFor name resourceType = s.firstNamed name resourceType := by
  cases resourceType <;> simp [NamespaceSpec.selectorFor, NamespaceSpec.firstNamed, NamespaceSpec.selectors,
    NamespaceSpec.resourceSpecs, Function.comp_def]

theorem Selector.field_eq (s : Selector) (fieldType : PrunerFieldType) : s.field fieldType = s.settings.get fieldType := by
  cases fieldType <;> rfl

theorem NamespaceSpec.field_eq (s : NamespaceSpec) (fieldType : PrunerFieldType) :
    s.field fieldType = s.settings.get fieldType := by
  cases fieldType <;> rfl

theorem PrunerConfig.field_eq (s : PrunerConfig) (fieldType : PrunerFieldType) :
    s.field fieldType = s.settings.get fieldType := by
  cases fieldType <;> rfl

theorem getFromPrunerConfigResourceLevel_eq (m : Namespaces) (ns name : String)
    (resourceType : PrunerResourceType) (fieldType : PrunerFieldType) :
    getFromPrunerConfigResourceLevel m ns name resourceType fieldType =
      ((entryFor m ns).bind fun e => (e.firstNamed name resourceType).map (·.settings)).bind (·.get fieldType) := by
  simp [getFromPrunerConfigResourceLevel, lookup_eq_entryFor, selectorFor_eq_firstNamed, Selector.field_eq,
    Option.bind_assoc, Option.bind_map, Function.comp_def]

theorem getFromNamespaceRoot_eq (m : Namespaces) (ns : String) (fieldType : PrunerFieldType) :
    getFromNamespaceRoot m ns fieldType = ((entryFor m ns).map (·.settings)).bind (·.get fieldType) := by
  simp [getFromNamespaceRoot, lookup_eq_entryFor, NamespaceSpec.field_eq, Option.bind_map, Function.comp_def]

theorem getResourceFieldData_eq_firstSet (namespacedSpec : Namespaces) (globalSpec : PrunerConfig)
    (ns name : String) (resourceType : PrunerResourceType) (fieldType : PrunerFieldType)
    (level : EnforcedConfigLevel) :
    getResourceFieldData namespacedSpec globalSpec ns name resourceType fieldType level =
      firstSet ((chain level).map (layerValue namespacedSpec globalSpec ns name resourceType fieldType)) := by
  unfold getResourceFieldData chain
  split_ifs <;> simp [precedence, layerValue, layerSettings, getFromPrunerConfigResourceLevel_eq,
    getFromNamespaceRoot_eq, PrunerConfig.field_eq, Option.or_assoc]

-- ---------------------------------------------------------------------------
-- Chains
-- ---------------------------------------------------------------------------

theorem firstSet_append_cons_of_none {pre post : List (Option Int32)} {v : Option Int32}
    (hpre : ∀ x ∈ pre, x = none) : firstSet (pre ++ v :: post) = v.or (firstSet post) := by
  induction pre with
  | nil => rfl
  | cons x xs ih =>
    rw [hpre x (List.mem_cons_self x xs)]
    simpa using ih fun y hy => hpre y (List.mem_cons_of_mem x hy)

/-- A value supplied by layer `l` is unaffected by any layer after `l` in the chain. -/
theorem firstSet_map_eq_of_agree_through {f g : Layer → Option Int32} {pre post : List Layer}
    {l : Layer} (hpre : ∀ x ∈ pre, f x = none) (hl : (f l).isSome)
    (hagree : ∀ x ∈ pre ++ [l], g x = f x) :
    firstSet ((pre ++ l :: post).map g) = firstSet ((pre ++ l :: post).map f) := by
  have hg : ∀ x ∈ pre, g x = none := fun x hx => (hagree x (by simp [hx])).trans (hpre x hx)
  obtain ⟨v, hv⟩ := Option.isSome_iff_exists.mp hl
  simp only [List.map_append, List.map_cons]
  rw [firstSet_append_cons_of_none (by simpa using hg), firstSet_append_cons_of_none (by simpa using hpre),
    hagree l (by simp), hv]
  rfl

theorem chain_namespace :
    chain enforcedConfigLevelNamespace = [.namespacedRoot, .globalSelector, .globalNamespaceRoot, .globalRoot] := by
  decide

theorem chain_global : chain enforcedConfigLevelGlobal = [.globalSelector, .globalNamespaceRoot, .globalRoot] := by
  decide

theorem chain_getLast? (level : EnforcedConfigLevel)
    (hlevel : level ∈ [enforcedConfigLevelResource, enforcedConfigLevelNamespace, enforcedConfigLevelGlobal]) :
    (chain level).getLast? = some .globalRoot := by
  simp only [List.mem_cons, List.mem_singleton, List.not_mem_nil, or_false] at hlevel
  unfold chain
  rcases hlevel with rfl | rfl | rfl <;> decide

theorem getResourceFieldData_congr {namespacedSpec namespacedSpec' : Namespaces} {globalSpec globalSpec' : PrunerConfig}
    {ns name : String} {resourceType : PrunerResourceType} {fieldType : PrunerFieldType}
    (h : ∀ l, layerValue namespacedSpec' globalSpec' ns name resourceType fieldType l =
      layerValue namespacedSpec globalSpec ns name resourceType fieldType l) (level : EnforcedConfigLevel) :
    getResourceFieldData namespacedSpec' globalSpec' ns name resourceType fieldType level =
      getResourceFieldData namespacedSpec globalSpec ns name resourceType fieldType level := by
  rw [getResourceFieldData_eq_firstSet, getResourceFieldData_eq_firstSet, funext h]

-- ---------------------------------------------------------------------------
-- Data outside the five layers
-- ---------------------------------------------------------------------------

/-! Three ways to forget what resolution does not read: the fields other than
the one resolved, the selectors of other names and kinds, and the entries of
other namespaces. Resolving on the forgetful store gives the same value, so two
stores that differ only in what is forgotten resolve alike. -/

/-- Keeps the value of `fieldType` and clears the other two. -/
def Settings.only : PrunerFieldType → Settings → Settings
  | .ttlSecondsAfterFinished, s => ⟨s.ttlSecondsAfterFinished, none, none⟩
  | .successfulHistoryLimit, s => ⟨none, s.successfulHistoryLimit, none⟩
  | .failedHistoryLimit, s => ⟨none, none, s.failedHistoryLimit⟩

def Selector.mapSettings (f : Settings → Settings) (s : Selector) : Selector :=
  let v := f s.settings
  { s with
    ttlSecondsAfterFinished := v.ttlSecondsAfterFinished
    successfulHistoryLimit := v.successfulHistoryLimit
    failedHistoryLimit := v.failedHistoryLimit }

def NamespaceSpec.mapSettings (f : Settings → Settings) (s : NamespaceSpec) : NamespaceSpec :=
  let v := f s.settings
  { s with
    ttlSecondsAfterFinished := v.ttlSecondsAfterFinished
    successfulHistoryLimit := v.successfulHistoryLimit
    failedHistoryLimit := v.failedHistoryLimit
    pipelineRuns := s.pipelineRuns.map fun r => ⟨r.selector.mapSettings f⟩
    taskRuns := s.taskRuns.map fun r => ⟨r.selector.mapSettings f⟩ }

def mapNamespaces (f : NamespaceSpec → NamespaceSpec) (m : Namespaces) : Namespaces :=
  m.map fun e => (e.1, f e.2)

def PrunerConfig.mapSettings (f : Settings → Settings) (s : PrunerConfig) : PrunerConfig :=
  let v := f s.settings
  { s with
    ttlSecondsAfterFinished := v.ttlSecondsAfterFinished
    successfulHistoryLimit := v.successfulHistoryLimit
    failedHistoryLimit := v.failedHistoryLimit
    namespaces := mapNamespaces (·.mapSettings f) s.namespaces }

/-- Keeps the selectors named `name` of kind `resourceType` and drops every other. -/
def NamespaceSpec.keepSelectors (name : String) (resourceType : PrunerResourceType) (s : NamespaceSpec) :
    NamespaceSpec :=
  let keep (kind : PrunerResourceType) (l : List ResourceSpec) :=
    if kind = resourceType then l.filter (·.selector.name == name) else []
  { s with pipelineRuns := keep .pipelineRun s.pipelineRuns, taskRuns := keep .taskRun s.taskRuns }

def PrunerConfig.keepSelectors (name : String) (resourceType : PrunerResourceType) (s : PrunerConfig) :
    PrunerConfig :=
  { s with namespaces := mapNamespaces (·.keepSelectors name resourceType) s.namespaces }

/-- Keeps the entries of `ns` and drops every other. -/
def keepNamespace (ns : String) (m : Namespaces) : Namespaces := m.filter fun e => e.1 = ns

def PrunerConfig.keepNamespace (ns : String) (s : PrunerConfig) : PrunerConfig :=
  { s with namespaces := Config.keepNamespace ns s.namespaces }

@[simp] theorem Selector.settings_mapSettings (f : Settings → Settings) (s : Selector) :
    (s.mapSettings f).settings = f s.settings := rfl

@[simp] theorem NamespaceSpec.settings_mapSettings (f : Settings → Settings) (s : NamespaceSpec) :
    (s.mapSettings f).settings = f s.settings := rfl

@[simp] theorem PrunerConfig.settings_mapSettings (f : Settings → Settings) (s : PrunerConfig) :
    (s.mapSettings f).settings = f s.settings := rfl

@[simp] theorem PrunerConfig.namespaces_mapSettings (f : Settings → Settings) (s : PrunerConfig) :
    (s.mapSettings f).namespaces = mapNamespaces (·.mapSettings f) s.namespaces := rfl

@[simp] theorem NamespaceSpec.settings_keepSelectors (name : String) (resourceType : PrunerResourceType)
    (s : NamespaceSpec) : (s.keepSelectors name resourceType).settings = s.settings := rfl

@[simp] theorem PrunerConfig.settings_keepSelectors (name : String) (resourceType : PrunerResourceType)
    (s : PrunerConfig) : (s.keepSelectors name resourceType).settings = s.settings := rfl

@[simp] theorem PrunerConfig.settings_keepNamespace (ns : String) (s : PrunerConfig) :
    (s.keepNamespace ns).settings = s.settings := rfl

@[simp] theorem PrunerConfig.namespaces_keepSelectors (name : String) (resourceType : PrunerResourceType)
    (s : PrunerConfig) :
    (s.keepSelectors name resourceType).namespaces = mapNamespaces (·.keepSelectors name resourceType) s.namespaces :=
  rfl

@[simp] theorem PrunerConfig.namespaces_keepNamespace (ns : String) (s : PrunerConfig) :
    (s.keepNamespace ns).namespaces = Config.keepNamespace ns s.namespaces := rfl

@[simp] theorem Settings.get_only (s : Settings) (fieldType : PrunerFieldType) :
    (s.only fieldType).get fieldType = s.get fieldType := by
  cases fieldType <;> rfl

theorem entryFor_mapNamespaces (f : NamespaceSpec → NamespaceSpec) (m : Namespaces) (ns : String) :
    entryFor (mapNamespaces f m) ns = (entryFor m ns).map f := by
  simp [entryFor, mapNamespaces, Function.comp_def]

theorem entryFor_keepNamespace (m : Namespaces) (ns : String) : entryFor (keepNamespace ns m) ns = entryFor m ns := by
  simp [entryFor, keepNamespace]

theorem NamespaceSpec.firstNamed_mapSettings (f : Settings → Settings) (s : NamespaceSpec) (name : String)
    (resourceType : PrunerResourceType) :
    (s.mapSettings f).firstNamed name resourceType = (s.firstNamed name resourceType).map (·.mapSettings f) := by
  cases resourceType <;> simp [NamespaceSpec.firstNamed, NamespaceSpec.selectors, NamespaceSpec.mapSettings,
    Selector.mapSettings, Function.comp_def]

theorem NamespaceSpec.firstNamed_keepSelectors (s : NamespaceSpec) (name : String) (resourceType : PrunerResourceType) :
    (s.keepSelectors name resourceType).firstNamed name resourceType = s.firstNamed name resourceType := by
  cases resourceType <;> simp [NamespaceSpec.firstNamed, NamespaceSpec.selectors, NamespaceSpec.keepSelectors,
    Function.comp_def] <;> rfl

theorem layerSettings_mapSettings (f : Settings → Settings) (namespacedSpec : Namespaces) (globalSpec : PrunerConfig)
    (ns name : String) (resourceType : PrunerResourceType) (l : Layer) :
    layerSettings (mapNamespaces (·.mapSettings f) namespacedSpec) (globalSpec.mapSettings f) ns name resourceType l =
      (layerSettings namespacedSpec globalSpec ns name resourceType l).map f := by
  cases l <;> simp [layerSettings, entryFor_mapNamespaces, NamespaceSpec.firstNamed_mapSettings, Option.map_bind,
    Option.bind_map, Option.map_map, Function.comp_def]

theorem getResourceFieldData_only (namespacedSpec : Namespaces) (globalSpec : PrunerConfig) (ns name : String)
    (resourceType : PrunerResourceType) (fieldType : PrunerFieldType) (level : EnforcedConfigLevel) :
    getResourceFieldData (mapNamespaces (·.mapSettings (Settings.only fieldType)) namespacedSpec)
        (globalSpec.mapSettings (Settings.only fieldType)) ns name resourceType fieldType level =
      getResourceFieldData namespacedSpec globalSpec ns name resourceType fieldType level := by
  refine getResourceFieldData_congr (fun l => ?_) level
  simp only [layerValue, layerSettings_mapSettings, Option.bind_map, Function.comp_def, Settings.get_only]

theorem getResourceFieldData_keepSelectors (namespacedSpec : Namespaces) (globalSpec : PrunerConfig) (ns name : String)
    (resourceType : PrunerResourceType) (fieldType : PrunerFieldType) (level : EnforcedConfigLevel) :
    getResourceFieldData (mapNamespaces (·.keepSelectors name resourceType) namespacedSpec)
        (globalSpec.keepSelectors name resourceType) ns name resourceType fieldType level =
      getResourceFieldData namespacedSpec globalSpec ns name resourceType fieldType level := by
  refine getResourceFieldData_congr (fun l => ?_) level
  cases l <;> simp [layerValue, layerSettings, entryFor_mapNamespaces, NamespaceSpec.firstNamed_keepSelectors,
    Option.bind_map, Function.comp_def]

theorem getResourceFieldData_keepNamespace (namespacedSpec : Namespaces) (globalSpec : PrunerConfig) (ns name : String)
    (resourceType : PrunerResourceType) (fieldType : PrunerFieldType) (level : EnforcedConfigLevel) :
    getResourceFieldData (keepNamespace ns namespacedSpec) (globalSpec.keepNamespace ns) ns name resourceType fieldType
        level =
      getResourceFieldData namespacedSpec globalSpec ns name resourceType fieldType level := by
  refine getResourceFieldData_congr (fun l => ?_) level
  cases l <;> simp [layerValue, layerSettings, entryFor_keepNamespace]

-- ---------------------------------------------------------------------------
-- Resolution
-- ---------------------------------------------------------------------------

/-- Resolution is the first set value along the level's chain of layers: the
resource chain is the whole precedence order, the namespace and global chains
are its suffixes, and each ends at the global root. A layer after the one that
supplied the value cannot change it, and neither can the other fields, the
selectors of other names and kinds, or the entries of other namespaces. -/
theorem getResourceFieldData_first_set_along_chain :
    chain enforcedConfigLevelResource = precedence ∧
    (chain enforcedConfigLevelGlobal).Sublist (chain enforcedConfigLevelNamespace) ∧
    (chain enforcedConfigLevelNamespace).Sublist (chain enforcedConfigLevelResource) ∧
    (∀ level ∈ [enforcedConfigLevelResource, enforcedConfigLevelNamespace, enforcedConfigLevelGlobal],
      (chain level).getLast? = some .globalRoot) ∧
    (∀ namespacedSpec globalSpec ns name resourceType fieldType level,
      getResourceFieldData namespacedSpec globalSpec ns name resourceType fieldType level =
        firstSet ((chain level).map (layerValue namespacedSpec globalSpec ns name resourceType fieldType))) ∧
    (∀ namespacedSpec globalSpec namespacedSpec' globalSpec' ns name resourceType fieldType level
        pre l post, chain level = pre ++ l :: post →
      (∀ x ∈ pre, layerValue namespacedSpec globalSpec ns name resourceType fieldType x = none) →
      (layerValue namespacedSpec globalSpec ns name resourceType fieldType l).isSome →
      (∀ x ∈ pre ++ [l], layerValue namespacedSpec' globalSpec' ns name resourceType fieldType x =
        layerValue namespacedSpec globalSpec ns name resourceType fieldType x) →
      getResourceFieldData namespacedSpec' globalSpec' ns name resourceType fieldType level =
        getResourceFieldData namespacedSpec globalSpec ns name resourceType fieldType level) ∧
    (∀ namespacedSpec globalSpec namespacedSpec' globalSpec' ns name resourceType fieldType level,
      mapNamespaces (·.mapSettings (Settings.only fieldType)) namespacedSpec' =
        mapNamespaces (·.mapSettings (Settings.only fieldType)) namespacedSpec →
      globalSpec'.mapSettings (Settings.only fieldType) = globalSpec.mapSettings (Settings.only fieldType) →
      getResourceFieldData namespacedSpec' globalSpec' ns name resourceType fieldType level =
        getResourceFieldData namespacedSpec globalSpec ns name resourceType fieldType level) ∧
    (∀ namespacedSpec globalSpec namespacedSpec' globalSpec' ns name resourceType fieldType level,
      mapNamespaces (·.keepSelectors name resourceType) namespacedSpec' =
        mapNamespaces (·.keepSelectors name resourceType) namespacedSpec →
      globalSpec'.keepSelectors name resourceType = globalSpec.keepSelectors name resourceType →
      getResourceFieldData namespacedSpec' globalSpec' ns name resourceType fieldType level =
        getResourceFieldData namespacedSpec globalSpec ns name resourceType fieldType level) ∧
    (∀ namespacedSpec globalSpec namespacedSpec' globalSpec' ns name resourceType fieldType level,
      keepNamespace ns namespacedSpec' = keepNamespace ns namespacedSpec →
      globalSpec'.keepNamespace ns = globalSpec.keepNamespace ns →
      getResourceFieldData namespacedSpec' globalSpec' ns name resourceType fieldType level =
        getResourceFieldData namespacedSpec globalSpec ns name resourceType fieldType level) := by
  refine ⟨if_pos rfl, by decide, by decide, chain_getLast?, getResourceFieldData_eq_firstSet, ?lower, ?fields,
    ?selectors, ?namespaces⟩
  case lower =>
    intro _ _ _ _ _ _ _ _ level pre l post hchain hpre hl hagree
    simp only [getResourceFieldData_eq_firstSet, hchain]
    exact firstSet_map_eq_of_agree_through hpre hl hagree
  case fields =>
    intro namespacedSpec globalSpec namespacedSpec' globalSpec' _ _ _ _ _ hm hg
    rw [← getResourceFieldData_only namespacedSpec, ← getResourceFieldData_only namespacedSpec', hm, hg]
  case selectors =>
    intro namespacedSpec globalSpec namespacedSpec' globalSpec' _ _ _ _ _ hm hg
    rw [← getResourceFieldData_keepSelectors namespacedSpec, ← getResourceFieldData_keepSelectors namespacedSpec', hm, hg]
  case namespaces =>
    intro namespacedSpec globalSpec namespacedSpec' globalSpec' _ _ _ _ _ hm hg
    rw [← getResourceFieldData_keepNamespace namespacedSpec, ← getResourceFieldData_keepNamespace namespacedSpec', hm, hg]

/-- Under level namespace the namespaced root is read first, then the global
config's entry for the namespace, its selector for the name and kind and then
its root, and the global root last; the namespaced selectors are never read.
Under level global the same three global layers are read, and the namespaced
config not at all. -/
theorem namespaced_config_read_only_at_root (namespacedSpec : Namespaces) (globalSpec : PrunerConfig)
    (ns name : String) (resourceType : PrunerResourceType) (fieldType : PrunerFieldType) :
    getResourceFieldData namespacedSpec globalSpec ns name resourceType fieldType enforcedConfigLevelNamespace =
      firstSet ([.namespacedRoot, .globalSelector, .globalNamespaceRoot, .globalRoot].map
        (layerValue namespacedSpec globalSpec ns name resourceType fieldType)) ∧
    getResourceFieldData namespacedSpec globalSpec ns name resourceType fieldType enforcedConfigLevelGlobal =
      firstSet ([.globalSelector, .globalNamespaceRoot, .globalRoot].map
        (layerValue namespacedSpec globalSpec ns name resourceType fieldType)) ∧
    ∀ namespacedSpec' : Namespaces,
      (layerValue namespacedSpec' globalSpec ns name resourceType fieldType .namespacedRoot =
          layerValue namespacedSpec globalSpec ns name resourceType fieldType .namespacedRoot →
        getResourceFieldData namespacedSpec' globalSpec ns name resourceType fieldType enforcedConfigLevelNamespace =
          getResourceFieldData namespacedSpec globalSpec ns name resourceType fieldType enforcedConfigLevelNamespace) ∧
      getResourceFieldData namespacedSpec' globalSpec ns name resourceType fieldType enforcedConfigLevelGlobal =
        getResourceFieldData namespacedSpec globalSpec ns name resourceType fieldType enforcedConfigLevelGlobal := by
  have h := getResourceFieldData_eq_firstSet
  refine ⟨by rw [h, chain_namespace], by rw [h, chain_global], fun namespacedSpec' => ⟨fun hroot => ?_, ?_⟩⟩
  · rw [h, h, chain_namespace]
    simp only [List.map_cons, List.map_nil, hroot]
    rfl
  · rw [h, h, chain_global]
    rfl

/-- A global config whose entry for `ns` has the selector `build` for pipeline
runs with `ttl`, and the root `root`. -/
def globalEntryConfig (ttl root : Option Int32) : PrunerConfig :=
  { (default : PrunerConfig) with
    namespaces := [("ns", { (default : NamespaceSpec) with
      ttlSecondsAfterFinished := root
      pipelineRuns := [⟨{ (default : Selector) with name := "build", ttlSecondsAfterFinished := ttl }⟩] })] }

/-- Setting the global entry's selector changes the value under level
namespace, and setting the global entry's root changes it under level global. -/
theorem global_entry_read_under_namespace_and_global :
    getResourceFieldData [] (globalEntryConfig (some 60) none) "ns" "build" .pipelineRun .ttlSecondsAfterFinished
        enforcedConfigLevelNamespace = some 60 ∧
    getResourceFieldData [] (globalEntryConfig none none) "ns" "build" .pipelineRun .ttlSecondsAfterFinished
        enforcedConfigLevelNamespace = none ∧
    getResourceFieldData [] (globalEntryConfig none (some 60)) "ns" "build" .pipelineRun .ttlSecondsAfterFinished
        enforcedConfigLevelGlobal = some 60 ∧
    getResourceFieldData [] (globalEntryConfig none none) "ns" "build" .pipelineRun .ttlSecondsAfterFinished
        enforcedConfigLevelGlobal = none :=
  ⟨by decide, by decide, by decide, by decide⟩

end TektonPruner.Config
