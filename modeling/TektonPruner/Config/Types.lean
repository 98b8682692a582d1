import Mathlib

/-!
# The layered pruner configuration

The configuration types of the `helper` package: a global `PrunerConfig` whose
`namespaces` map holds one `NamespaceSpec` per namespace, each with per-kind
lists of resource selectors, and the store that holds the global config next
to the namespaced one.

Go's `*int32` is `Option Int32`, with `Int32` the 32-bit vector and its signed
reading `BitVec.toInt`. `EnforcedConfigLevel` is a Go `string`, so any text the
YAML holds is a level; the three constants are only the ones the code names.
The resource and field types are only ever passed as the package's constants,
so they are enumerations here. A Go map is an association list; lookup takes
the first binding.

Not modelled: `MatchLabels`, `MatchAnnotations` and `HistoryLimit`, which no
resolution function reads.
-/

namespace TektonPruner

abbrev Int32 := BitVec 32

namespace Config

inductive PrunerResourceType
  | pipelineRun
  | taskRun
  deriving DecidableEq, Repr

inductive PrunerFieldType
  | ttlSecondsAfterFinished
  | successfulHistoryLimit
  | failedHistoryLimit
  deriving DecidableEq, Repr

abbrev EnforcedConfigLevel := String

def enforcedConfigLevelGlobal : EnforcedConfigLevel := "global"
def enforcedConfigLevelNamespace : EnforcedConfigLevel := "namespace"
def enforcedConfigLevelResource : EnforcedConfigLevel := "resource"

/-- The config of one named pipeline (for pipeline runs) or task (for task runs). -/
structure Selector where
  name : String
  ttlSecondsAfterFinished : Option Int32
  successfulHistoryLimit : Option Int32
  failedHistoryLimit : Option Int32
  enforcedConfigLevel : EnforcedConfigLevel
  deriving DecidableEq, Repr, Inhabited

structure ResourceSpec where
  selector : Selector
  deriving DecidableEq, Repr, Inhabited

structure NamespaceSpec where
  enforcedConfigLevel : EnforcedConfigLevel
  ttlSecondsAfterFinished : Option Int32
  successfulHistoryLimit : Option Int32
  failedHistoryLimit : Option Int32
  pipelineRuns : List ResourceSpec
  taskRuns : List ResourceSpec
  deriving DecidableEq, Repr, Inhabited

abbrev Namespaces := List (String × NamespaceSpec)

structure PrunerConfig where
  enforcedConfigLevel : EnforcedConfigLevel
  ttlSecondsAfterFinished : Option Int32
  successfulHistoryLimit : Option Int32
  failedHistoryLimit : Option Int32
  namespaces : Namespaces
  deriving DecidableEq, Repr, Inhabited

/-- `prunerConfigStore` without its mutex: every method holds the mutex for its
whole body, so each is one atomic step on these two fields. -/
structure PrunerConfigStore where
  globalConfig : PrunerConfig
  namespacedConfig : Namespaces
  deriving DecidableEq, Repr

/-- The singleton `PrunerConfigStore` as the process starts: zero global config,
nil namespaced map. -/
def PrunerConfigStore.init : PrunerConfigStore :=
  { globalConfig := default, namespacedConfig := [] }

-- ---------------------------------------------------------------------------
-- The three field switches
-- ---------------------------------------------------------------------------

def Selector.field (s : Selector) : PrunerFieldType → Option Int32
  | .ttlSecondsAfterFinished => s.ttlSecondsAfterFinished
  | .successfulHistoryLimit => s.successfulHistoryLimit
  | .failedHistoryLimit => s.failedHistoryLimit

def NamespaceSpec.field (s : NamespaceSpec) : PrunerFieldType → Option Int32
  | .ttlSecondsAfterFinished => s.ttlSecondsAfterFinished
  | .successfulHistoryLimit => s.successfulHistoryLimit
  | .failedHistoryLimit => s.failedHistoryLimit

def PrunerConfig.field (s : PrunerConfig) : PrunerFieldType → Option Int32
  | .ttlSecondsAfterFinished => s.ttlSecondsAfterFinished
  | .successfulHistoryLimit => s.successfulHistoryLimit
  | .failedHistoryLimit => s.failedHistoryLimit

def NamespaceSpec.resourceSpecs (s : NamespaceSpec) : PrunerResourceType → List ResourceSpec
  | .pipelineRun => s.pipelineRuns
  | .taskRun => s.taskRuns

/-- The first selector of kind `resourceType` whose name is `name`: the one
the `for ... range resourceSpecs` loops stop at. -/
def NamespaceSpec.selectorFor (s : NamespaceSpec) (name : String)
    (resourceType : PrunerResourceType) : Option Selector :=
  ((s.resourceSpecs resourceType).find? (·.selector.name == name)).map (·.selector)

end Config

end TektonPruner
