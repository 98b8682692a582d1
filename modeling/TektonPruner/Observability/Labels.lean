import TektonPruner.Store.Object

/-!
# Metric labels as OpenTelemetry attributes

`MetricLabels.ToAttributes` turns each label that is set into one string
attribute, in a fixed order, and leaves out the empty ones. The recorders of
`PrunerMetrics` that take a second value (`RecordResourceError`,
`RecordResourceSkipped`, `RecordResourceDeleteError`, `RecordResourceUpdateError`)
append it as one more attribute.

OpenTelemetry keeps one value per attribute key, and a time series is its
attribute set. The attributes of a point never repeat a key, and they give back
the labels and the value the recorder was called with: two calls with different
labels or values always land in different series.
-/

namespace TektonPruner.Observability

/-- An `attribute.String(key, value)` list, read as the map it gives. -/
abbrev Attributes := StringMap

/-- `MetricLabels`; `ns` is the Go field `Namespace`. -/
structure MetricLabels where
  ns : String
  resourceType : String
  reason : String
  status : String
  configLevel : String
  deriving DecidableEq, Repr

/-- `if value != "" { attrs = append(attrs, attribute.String(key, value)) }`. -/
def appendLabel (attrs : Attributes) (key value : String) : Attributes :=
  if value ≠ "" then attrs ++ [(key, value)] else attrs

def MetricLabels.toAttributes (ml : MetricLabels) : Attributes :=
  let attrs : Attributes := []
  let attrs := appendLabel attrs "namespace" ml.ns
  let attrs := appendLabel attrs "resource_type" ml.resourceType
  let attrs := appendLabel attrs "reason" ml.reason
  let attrs := appendLabel attrs "status" ml.status
  appendLabel attrs "config_level" ml.configLevel

/-- The labels a list of attributes names, an absent key read as the empty label. -/
def MetricLabels.ofAttributes (attrs : Attributes) : MetricLabels where
  ns := (attrs.get? "namespace").getD ""
  resourceType := (attrs.get? "resource_type").getD ""
  reason := (attrs.get? "reason").getD ""
  status := (attrs.get? "status").getD ""
  configLevel := (attrs.get? "config_level").getD ""

structure Increment where
  instrument : String
  value : Int
  attributes : Attributes
  deriving DecidableEq, Repr

/-- The body the four recorders with a second value share: one increment, the
labels' attributes and the value under `key`. -/
def PrunerMetrics.addWithAttribute (instrument key : String) (labels : MetricLabels) (value : String) :
    Increment :=
  ⟨instrument, 1, labels.toAttributes ++ [(key, value)]⟩

def PrunerMetrics.recordResourceError (labels : MetricLabels) (errorType : String) : Increment :=
  addWithAttribute "tektoncd_pruner_resources_errors_total" "error_type" labels errorType

def PrunerMetrics.recordResourceSkipped (labels : MetricLabels) (reason : String) : Increment :=
  addWithAttribute "tektoncd_pruner_resources_skipped_total" "skip_reason" labels reason

def PrunerMetrics.recordResourceDeleteError (labels : MetricLabels) (errorType : String) : Increment :=
  addWithAttribute "tektoncd_pruner_resource_delete_errors_total" "error_type" labels errorType

def PrunerMetrics.recordResourceUpdateError (labels : MetricLabels) (errorType : String) : Increment :=
  addWithAttribute "tektoncd_pruner_resource_update_errors_total" "error_type" labels errorType

-- ---------------------------------------------------------------------------
-- Reading the attributes back
-- ---------------------------------------------------------------------------

def labelKeys : List String := ["namespace", "resource_type", "reason", "status", "config_level"]

theorem get?_appendLabel_of_ne (attrs : Attributes) {key k : String} (value : String) (h : k ≠ key) :
    (appendLabel attrs key value).get? k = attrs.get? k := by
  unfold appendLabel
  split
  · simp [StringMap.get?_append, StringMap.get?, h]
  · rfl

theorem get?_appendLabel_self {attrs : Attributes} {key : String} (value : String) (h : attrs.get? key = none) :
    ((appendLabel attrs key value).get? key).getD "" = value := by
  unfold appendLabel
  split
  · simp [StringMap.get?_append, StringMap.get?, h]
  · simp_all

theorem keys_appendLabel_sublist {attrs : Attributes} {keys : List String} (h : (attrs.map Prod.fst).Sublist keys)
    (key value : String) : ((appendLabel attrs key value).map Prod.fst).Sublist (keys ++ [key]) := by
  unfold appendLabel
  split
  · simpa using h.append (List.Sublist.refl [key])
  · exact h.trans (List.sublist_append_left keys [key])

theorem keys_toAttributes_sublist (ml : MetricLabels) : (ml.toAttributes.map Prod.fst).Sublist labelKeys := by
  have hnil : (([] : Attributes).map Prod.fst).Sublist [] := List.Sublist.slnil
  exact keys_appendLabel_sublist (keys_appendLabel_sublist (keys_appendLabel_sublist
    (keys_appendLabel_sublist (keys_appendLabel_sublist hnil _ _) _ _) _ _) _ _) _ _

theorem ofAttributes_toAttributes (ml : MetricLabels) : MetricLabels.ofAttributes ml.toAttributes = ml := by
  simp [MetricLabels.ofAttributes, MetricLabels.toAttributes, get?_appendLabel_of_ne, get?_appendLabel_self,
    StringMap.get?]

theorem labelKeys_nodup : labelKeys.Nodup := by decide

/-- A key outside `labelKeys` after the labels: the keys stay distinct, and
the labels and the value both read back. -/
theorem addWithAttribute_reads_back {key : String} (hkey : key ∉ labelKeys) (instrument : String)
    (labels : MetricLabels) (value : String) :
    (((PrunerMetrics.addWithAttribute instrument key labels value).attributes.map Prod.fst).Nodup) ∧
      MetricLabels.ofAttributes (PrunerMetrics.addWithAttribute instrument key labels value).attributes = labels ∧
      (PrunerMetrics.addWithAttribute instrument key labels value).attributes.get? key = some value := by
  have hsub := keys_toAttributes_sublist labels
  have hfree : labels.toAttributes.get? key = none :=
    (StringMap.get?_eq_none_iff _ _).mpr fun h => hkey (hsub.subset h)
  have hlabel : ∀ k ∈ labelKeys, (labels.toAttributes ++ [(key, value)]).get? k = labels.toAttributes.get? k :=
    fun k hk => by
      have hne : k ≠ key := fun h => hkey (h ▸ hk)
      simp [StringMap.get?_append, StringMap.get?, hne]
  refine ⟨?nodup, ?labels, by simp [PrunerMetrics.addWithAttribute, StringMap.get?_append, hfree, StringMap.get?]⟩
  case nodup =>
    simp only [PrunerMetrics.addWithAttribute, List.map_append, List.map_cons, List.map_nil]
    exact (labelKeys_nodup.sublist hsub).append (List.nodup_singleton key)
      (List.disjoint_singleton.mpr fun h => hkey (hsub.subset h))
  case labels =>
    conv_rhs => rw [← ofAttributes_toAttributes labels]
    simp only [PrunerMetrics.addWithAttribute, MetricLabels.ofAttributes]
    simp [labelKeys, hlabel]

theorem addWithAttribute_series {key : String} (hkey : key ∉ labelKeys) (instrument : String)
    (labels labels' : MetricLabels) (value value' : String) :
    ((PrunerMetrics.addWithAttribute instrument key labels value).attributes.map Prod.fst).Nodup ∧
      ((PrunerMetrics.addWithAttribute instrument key labels value).attributes =
          (PrunerMetrics.addWithAttribute instrument key labels' value').attributes →
        labels = labels' ∧ value = value') := by
  obtain ⟨hnodup, hlabels, hvalue⟩ := addWithAttribute_reads_back hkey instrument labels value
  obtain ⟨-, hlabels', hvalue'⟩ := addWithAttribute_reads_back hkey instrument labels' value'
  refine ⟨hnodup, fun h => ⟨?_, ?_⟩⟩
  · rw [← hlabels, ← hlabels', h]
  · rw [h, hvalue'] at hvalue
    exact (Option.some.inj hvalue).symm

/-- Every point a labelled recorder makes names its series: its attributes
repeat no key, and two calls make the same attributes only with the same
labels, and, for the recorders that take one, the same second value. -/
theorem PrunerMetrics.attributes_identify_series :
    (∀ labels labels' : MetricLabels, (labels.toAttributes.map Prod.fst).Nodup ∧
      (labels.toAttributes = labels'.toAttributes → labels = labels')) ∧
    ∀ record ∈ [PrunerMetrics.recordResourceError, PrunerMetrics.recordResourceSkipped,
        PrunerMetrics.recordResourceDeleteError, PrunerMetrics.recordResourceUpdateError],
      ∀ labels labels' value value',
        ((record labels value).attributes.map Prod.fst).Nodup ∧
        ((record labels value).attributes = (record labels' value').attributes → labels = labels' ∧ value = value') := by
  refine ⟨fun labels labels' => ⟨labelKeys_nodup.sublist (keys_toAttributes_sublist labels), fun h => ?_⟩, ?_⟩
  · rw [← ofAttributes_toAttributes labels, h, ofAttributes_toAttributes]
  · simp only [List.mem_cons, List.mem_singleton, List.not_mem_nil, or_false]
    rintro record (rfl | rfl | rfl | rfl) <;> exact addWithAttribute_series (by decide) _

end TektonPruner.Observability
