import TektonPruner.Metrics.DeletionTracker

/-!
# The recorder's deduplication

`RecordUniqueResourceProcessed` and `RecordResourceDeleted` both ask the one
`DeletionTracker` that `GetDeletionTracker` returns whether to count, and
write their counters only when it says yes. The processing record asks about
the name `"processed-" + resourceName`, so a processing record and a deletion
share a key when the deleted resource is named `"processed-"` followed by the
processed one's name: then whichever comes first suppresses the other for a
minute.

Over the recorder's calls and the tracker's sweeps at non-decreasing times, a
call writes its counters exactly when no counted call on its tracker key lies
less than a minute before it.
-/

namespace TektonPruner.Metrics

def resourceTypePipelineRun : String := "pipelinerun"
def resourceTypeTaskRun : String := "taskrun"
def operationHistory : String := "history"
def deletionReasonTTL : String := "ttl_expired"
def deletionReasonLimits : String := "history_limits"

/-- One write to an instrument of `Recorder`, named by its field: an
`Add(ctx, 1, ...)` on a counter, or the `Record` of a resource's age (the
`Duration` whose `Seconds()` is recorded) on the age histogram. -/
inductive MetricWrite
  | add (instrument : String) (labels : List (String × String))
  | record (instrument : String) (resourceAge : Int) (labels : List (String × String))
  deriving DecidableEq, Repr

def processedWrites (resourceType ns status : String) : List MetricWrite :=
  let labels := [("resource_type", resourceType), ("namespace", ns), ("status", status)]
  let specificLabels := [("namespace", ns), ("status", status)]
  .add "resourcesProcessed" labels ::
    (if resourceType = resourceTypePipelineRun then [.add "pipelineRunsProcessed" specificLabels]
    else if resourceType = resourceTypeTaskRun then [.add "taskRunsProcessed" specificLabels]
    else [])

def deletedWrites (resourceType ns operation : String) (resourceAge : Int) : List MetricWrite :=
  let labels := [("resource_type", resourceType), ("namespace", ns), ("operation", operation)]
  let specificLabels := [("namespace", ns), ("operation", operation)]
  let deletionReason := if operation = operationHistory then deletionReasonLimits else deletionReasonTTL
  let reasonLabels := [("resource_type", resourceType), ("namespace", ns), ("deletion_reason", deletionReason)]
  [.add "resourcesDeleted" labels, .record "resourceAgeAtDeletion" resourceAge labels] ++
    (if resourceType = resourceTypePipelineRun then [.add "pipelineRunsDeleted" specificLabels]
    else if resourceType = resourceTypeTaskRun then [.add "taskRunsDeleted" specificLabels]
    else []) ++
    [.add "deletionsByReason" reasonLabels]

/-- The body both recorders share: ask the tracker about `name`, and write
`writes` only when it counts the call. -/
def countedWrites (tracker : DeletionTracker) (resourceType ns name : String) (writes : List MetricWrite)
    (now : Int) : List MetricWrite × DeletionTracker :=
  let (counted, tracker') := tracker.recordDeletion resourceType ns name now
  (if counted then writes else [], tracker')

def recordUniqueResourceProcessed (tracker : DeletionTracker) (resourceType ns resourceName status : String)
    (now : Int) : List MetricWrite × DeletionTracker :=
  countedWrites tracker resourceType ns ("processed-" ++ resourceName) (processedWrites resourceType ns status) now

def recordResourceDeleted (tracker : DeletionTracker) (resourceType ns operation resourceName : String)
    (resourceAge now : Int) : List MetricWrite × DeletionTracker :=
  countedWrites tracker resourceType ns resourceName (deletedWrites resourceType ns operation resourceAge) now

theorem Tracks.countedWrites_fresh {dt : DeletionTracker} {counted : List (String × Int)} {now t : Int}
    (h : Tracks dt counted now) (hle : now ≤ t) (resourceType ns name : String) (writes : List MetricWrite) :
    (countedWrites dt resourceType ns name writes t).1 =
        (if Fresh counted (deletionKey resourceType ns name) t then writes else []) ∧
    Tracks (countedWrites dt resourceType ns name writes t).2
      (if Fresh counted (deletionKey resourceType ns name) t then (deletionKey resourceType ns name, t) :: counted
        else counted) t := by
  obtain ⟨hanswer, hstep⟩ := h.recordDeletion hle resourceType ns name
  simpa only [countedWrites, hanswer, decide_eq_true_iff, true_and] using hstep

-- ---------------------------------------------------------------------------
-- Runs of the recorder
-- ---------------------------------------------------------------------------

/-- What reaches the shared tracker: a call of either recorder, or the tracker's sweep. -/
inductive RecorderCall
  | recordUniqueResourceProcessed (resourceType ns resourceName status : String) (now : Int)
  | recordResourceDeleted (resourceType ns operation resourceName : String) (resourceAge now : Int)
  | cleanup (now : Int)
  deriving DecidableEq, Repr

def RecorderCall.op : RecorderCall → Op
  | .recordUniqueResourceProcessed resourceType ns resourceName _ now =>
    .recordDeletion resourceType ns ("processed-" ++ resourceName) now
  | .recordResourceDeleted resourceType ns _ resourceName _ now => .recordDeletion resourceType ns resourceName now
  | .cleanup now => .cleanup now

def RecorderCall.writes : RecorderCall → List MetricWrite
  | .recordUniqueResourceProcessed resourceType ns _ status _ => processedWrites resourceType ns status
  | .recordResourceDeleted resourceType ns operation _ resourceAge _ => deletedWrites resourceType ns operation resourceAge
  | .cleanup _ => []

def runRecorder : DeletionTracker → List RecorderCall → List (List MetricWrite)
  | _, [] => []
  | tracker, .recordUniqueResourceProcessed resourceType ns resourceName status now :: calls =>
    (recordUniqueResourceProcessed tracker resourceType ns resourceName status now).1 ::
      runRecorder (recordUniqueResourceProcessed tracker resourceType ns resourceName status now).2 calls
  | tracker, .recordResourceDeleted resourceType ns operation resourceName resourceAge now :: calls =>
    (recordResourceDeleted tracker resourceType ns operation resourceName resourceAge now).1 ::
      runRecorder (recordResourceDeleted tracker resourceType ns operation resourceName resourceAge now).2 calls
  | tracker, .cleanup now :: calls => [] :: runRecorder (tracker.cleanup now) calls

/-- The writes the law gives: a call that asks the tracker writes its counters
exactly when no counted call on its key lies less than a minute before it. -/
def lawWrites : List (String × Int) → List RecorderCall → List (List MetricWrite)
  | _, [] => []
  | counted, call :: calls =>
    match call.op.record? with
    | some (key, t) =>
      (if Fresh counted key t then call.writes else []) ::
        lawWrites (if Fresh counted key t then (key, t) :: counted else counted) calls
    | none => [] :: lawWrites counted calls

/-- Over calls at non-decreasing times, none before `now`, the recorder writes
what the law gives from the history the tracker tracks. -/
theorem Tracks.runRecorder_eq {dt : DeletionTracker} {counted : List (String × Int)} {now : Int}
    {calls : List RecorderCall} (h : Tracks dt counted now) (hnow : ∀ call ∈ calls, now ≤ call.op.time)
    (hsorted : calls.Pairwise fun a b => a.op.time ≤ b.op.time) :
    runRecorder dt calls = lawWrites counted calls := by
  induction calls generalizing dt counted now with
  | nil => rfl
  | cons call calls ih =>
    obtain ⟨hhead, htail⟩ := List.pairwise_cons.mp hsorted
    have hle : now ≤ call.op.time := hnow call (List.mem_cons_self _ _)
    cases call with
    | recordUniqueResourceProcessed resourceType ns resourceName status t =>
      change now ≤ t at hle
      obtain ⟨hwrites, hstep⟩ := h.countedWrites_fresh hle resourceType ns ("processed-" ++ resourceName)
        (processedWrites resourceType ns status)
      exact (congr_arg₂ List.cons hwrites (ih hstep hhead htail) :)
    | recordResourceDeleted resourceType ns operation resourceName resourceAge t =>
      change now ≤ t at hle
      obtain ⟨hwrites, hstep⟩ := h.countedWrites_fresh hle resourceType ns resourceName
        (deletedWrites resourceType ns operation resourceAge)
      exact (congr_arg₂ List.cons hwrites (ih hstep hhead htail) :)
    | cleanup t => exact congrArg _ (ih (h.cleanup hle) hhead htail)

/-- From the tracker `GetDeletionTracker` creates, over calls and sweeps at
non-decreasing times, every call writes what the law gives. -/
theorem runRecorder_eq_lawWrites {calls : List RecorderCall}
    (hsorted : calls.Pairwise fun a b => a.op.time ≤ b.op.time) :
    runRecorder newDeletionTracker calls = lawWrites [] calls := by
  cases calls with
  | nil => rfl
  | cons call calls =>
    refine (Tracks.init call.op.time).runRecorder_eq (fun c hc => ?_) hsorted
    rcases List.mem_cons.mp hc with rfl | hc
    · exact le_rfl
    · exact (List.pairwise_cons.mp hsorted).1 c hc

-- ---------------------------------------------------------------------------
-- What a deletion's count depends on
-- ---------------------------------------------------------------------------

def RecorderCall.key? (call : RecorderCall) : Option String := call.op.record?.map Prod.fst

theorem lawWrites_filter_key (key : String) :
    ∀ (counted : List (String × Int)) (calls : List RecorderCall),
      ((calls.zip (lawWrites counted calls)).filter (·.1.key? == some key)).map (·.2) =
        lawWrites (counted.filter (·.1 == key)) (calls.filter (·.key? == some key))
  | _, [] => rfl
  | counted, call :: calls => by
    cases hrec : call.op.record? with
    | none =>
      have hkey : call.key? = none := by simp [RecorderCall.key?, hrec]
      simpa [lawWrites, hrec, hkey, List.filter_cons] using lawWrites_filter_key key counted calls
    | some r =>
      obtain ⟨k, t⟩ := r
      have hkey : call.key? = some k := by simp [RecorderCall.key?, hrec]
      have ih := lawWrites_filter_key key (if Fresh counted k t then (k, t) :: counted else counted) calls
      by_cases hk : k = key
      · subst hk
        have hfresh := fresh_filter_key counted k t
        by_cases hf : Fresh counted k t <;> simp_all [lawWrites, List.filter_cons]
      · have hcounted : (if Fresh counted k t then (k, t) :: counted else counted).filter (·.1 == key) =
            counted.filter (·.1 == key) := by
          split_ifs <;> simp [List.filter_cons, hk]
        simpa [lawWrites, hrec, hkey, List.filter_cons, hk, hcounted] using ih

/-- Whether a call asks the tracker about the key of the deletion of
`(resourceType, ns, name)`, read off its fields: a deletion of that resource,
or a processing record whose name with `"processed-"` in front is `name`. -/
def RecorderCall.sharesKey (resourceType ns name : String) : RecorderCall → Bool
  | .recordUniqueResourceProcessed rt ns' resourceName _ _ =>
    rt == resourceType && ns' == ns && "processed-" ++ resourceName == name
  | .recordResourceDeleted rt ns' _ resourceName _ _ => rt == resourceType && ns' == ns && resourceName == name
  | .cleanup _ => false

def RecorderCall.SlashFree : RecorderCall → Prop
  | .recordUniqueResourceProcessed rt ns _ _ _ => '/' ∉ rt.data ∧ '/' ∉ ns.data
  | .recordResourceDeleted rt ns _ _ _ _ => '/' ∉ rt.data ∧ '/' ∉ ns.data
  | .cleanup _ => True

instance : (call : RecorderCall) → Decidable call.SlashFree
  | .recordUniqueResourceProcessed rt ns _ _ _ => inferInstanceAs (Decidable ('/' ∉ rt.data ∧ '/' ∉ ns.data))
  | .recordResourceDeleted rt ns _ _ _ _ => inferInstanceAs (Decidable ('/' ∉ rt.data ∧ '/' ∉ ns.data))
  | .cleanup _ => inferInstanceAs (Decidable True)

theorem deletionKey_beq {rt ns' resourceName resourceType ns name : String} (hrt' : '/' ∉ rt.data)
    (hns' : '/' ∉ ns'.data) (hrt : '/' ∉ resourceType.data) (hns : '/' ∉ ns.data) :
    (some (deletionKey rt ns' resourceName) == some (deletionKey resourceType ns name)) =
      (rt == resourceType && ns' == ns && resourceName == name) := by
  rw [Bool.eq_iff_iff]
  simp only [beq_iff_eq, Option.some.injEq, Bool.and_eq_true]
  constructor
  · intro h
    obtain ⟨h1, h2, h3⟩ := deletionKey_inj hrt' hns' hrt hns h
    exact ⟨⟨h1, h2⟩, h3⟩
  · rintro ⟨⟨rfl, rfl⟩, rfl⟩
    rfl

theorem RecorderCall.key?_eq_deletionKey {call : RecorderCall} (hcall : call.SlashFree)
    {resourceType ns name : String} (hrt : '/' ∉ resourceType.data) (hns : '/' ∉ ns.data) :
    (call.key? == some (deletionKey resourceType ns name)) = call.sharesKey resourceType ns name := by
  cases call with
  | recordUniqueResourceProcessed => exact deletionKey_beq hcall.1 hcall.2 hrt hns
  | recordResourceDeleted => exact deletionKey_beq hcall.1 hcall.2 hrt hns
  | cleanup => rfl

/-- Over calls at non-decreasing times whose resource types and namespaces have
no '/', what the calls sharing the key of a deletion of `(resourceType, ns, name)`
write depends only on those calls: the deletions of that resource, and the
processing records of the resource whose name with `"processed-"` in front is
`name`. Calls on every other resource, and sweeps, change none of it. -/
theorem deletion_count_depends_on_shared_key {calls : List RecorderCall}
    (hsorted : calls.Pairwise fun a b => a.op.time ≤ b.op.time) (hslash : ∀ call ∈ calls, call.SlashFree)
    {resourceType ns name : String} (hrt : '/' ∉ resourceType.data) (hns : '/' ∉ ns.data) :
    ((calls.zip (runRecorder newDeletionTracker calls)).filter (·.1.sharesKey resourceType ns name)).map (·.2) =
      runRecorder newDeletionTracker (calls.filter (RecorderCall.sharesKey resourceType ns name)) := by
  have hkey : ∀ call ∈ calls,
      (call.key? == some (deletionKey resourceType ns name)) = call.sharesKey resourceType ns name :=
    fun call hcall => RecorderCall.key?_eq_deletionKey (hslash call hcall) hrt hns
  have hzip : (calls.zip (runRecorder newDeletionTracker calls)).filter (·.1.sharesKey resourceType ns name) =
      (calls.zip (runRecorder newDeletionTracker calls)).filter (·.1.key? == some (deletionKey resourceType ns name)) :=
    List.filter_congr fun p hp => (hkey p.1 (List.of_mem_zip hp).1).symm
  rw [hzip, List.filter_congr fun call hcall => (hkey call hcall).symm, runRecorder_eq_lawWrites hsorted,
    runRecorder_eq_lawWrites (hsorted.sublist (List.filter_sublist _)), lawWrites_filter_key]
  rfl

/-- The processing record of `build`, a deletion of `test`, then the deletion
of `processed-build`: the latter's writes are those of the two calls on its key. -/
theorem processed_record_shares_deletion_key :
    [RecorderCall.recordUniqueResourceProcessed resourceTypePipelineRun "ns" "build" "success" 0,
      .recordResourceDeleted resourceTypePipelineRun "ns" operationHistory "test" (3600 * 10 ^ 9) (5 * 10 ^ 8),
      .recordResourceDeleted resourceTypePipelineRun "ns" operationHistory "processed-build" (3600 * 10 ^ 9) (10 ^ 9)].Pairwise
        (fun a b => a.op.time ≤ b.op.time) ∧
    (∀ call ∈ [RecorderCall.recordUniqueResourceProcessed resourceTypePipelineRun "ns" "build" "success" 0,
      .recordResourceDeleted resourceTypePipelineRun "ns" operationHistory "test" (3600 * 10 ^ 9) (5 * 10 ^ 8),
      .recordResourceDeleted resourceTypePipelineRun "ns" operationHistory "processed-build" (3600 * 10 ^ 9) (10 ^ 9)],
        call.SlashFree) ∧
    ((([RecorderCall.recordUniqueResourceProcessed resourceTypePipelineRun "ns" "build" "success" 0,
      .recordResourceDeleted resourceTypePipelineRun "ns" operationHistory "test" (3600 * 10 ^ 9) (5 * 10 ^ 8),
      .recordResourceDeleted resourceTypePipelineRun "ns" operationHistory "processed-build" (3600 * 10 ^ 9) (10 ^ 9)].zip
      (runRecorder newDeletionTracker [.recordUniqueResourceProcessed resourceTypePipelineRun "ns" "build" "success" 0,
        .recordResourceDeleted resourceTypePipelineRun "ns" operationHistory "test" (3600 * 10 ^ 9) (5 * 10 ^ 8),
        .recordResourceDeleted resourceTypePipelineRun "ns" operationHistory "processed-build" (3600 * 10 ^ 9)
          (10 ^ 9)])).filter
        (·.1.sharesKey resourceTypePipelineRun "ns" "processed-build")).map (·.2) =
      runRecorder newDeletionTracker
        ([RecorderCall.recordUniqueResourceProcessed resourceTypePipelineRun "ns" "build" "success" 0,
          .recordResourceDeleted resourceTypePipelineRun "ns" operationHistory "test" (3600 * 10 ^ 9) (5 * 10 ^ 8),
          .recordResourceDeleted resourceTypePipelineRun "ns" operationHistory "processed-build" (3600 * 10 ^ 9)
            (10 ^ 9)].filter (RecorderCall.sharesKey resourceTypePipelineRun "ns" "processed-build"))) :=
  have hsorted : [RecorderCall.recordUniqueResourceProcessed resourceTypePipelineRun "ns" "build" "success" 0,
      .recordResourceDeleted resourceTypePipelineRun "ns" operationHistory "test" (3600 * 10 ^ 9) (5 * 10 ^ 8),
      .recordResourceDeleted resourceTypePipelineRun "ns" operationHistory "processed-build" (3600 * 10 ^ 9)
        (10 ^ 9)].Pairwise (fun a b => a.op.time ≤ b.op.time) := by
    decide
  have hslash : ∀ call ∈ [RecorderCall.recordUniqueResourceProcessed resourceTypePipelineRun "ns" "build" "success" 0,
      .recordResourceDeleted resourceTypePipelineRun "ns" operationHistory "test" (3600 * 10 ^ 9) (5 * 10 ^ 8),
      .recordResourceDeleted resourceTypePipelineRun "ns" operationHistory "processed-build" (3600 * 10 ^ 9)
        (10 ^ 9)], call.SlashFree := by
    decide
  ⟨hsorted, hslash, deletion_count_depends_on_shared_key hsorted hslash (by decide) (by decide)⟩

/-- A processing record, a deletion of the same run 30 s later, a sweep and a
second deletion after eleven minutes: the recorder writes what the law gives. -/
theorem recorder_follows_law_with_sweep :
    [RecorderCall.recordUniqueResourceProcessed resourceTypePipelineRun "ns" "build" "success" 0,
      .recordResourceDeleted resourceTypePipelineRun "ns" operationHistory "build" (3600 * 10 ^ 9) (30 * 10 ^ 9),
      .cleanup (660 * 10 ^ 9),
      .recordResourceDeleted resourceTypePipelineRun "ns" operationHistory "build" (3600 * 10 ^ 9) (660 * 10 ^ 9)].Pairwise
        (fun a b => a.op.time ≤ b.op.time) ∧
    runRecorder newDeletionTracker
        [.recordUniqueResourceProcessed resourceTypePipelineRun "ns" "build" "success" 0,
          .recordResourceDeleted resourceTypePipelineRun "ns" operationHistory "build" (3600 * 10 ^ 9) (30 * 10 ^ 9),
          .cleanup (660 * 10 ^ 9),
          .recordResourceDeleted resourceTypePipelineRun "ns" operationHistory "build" (3600 * 10 ^ 9) (660 * 10 ^ 9)] =
      lawWrites []
        [.recordUniqueResourceProcessed resourceTypePipelineRun "ns" "build" "success" 0,
          .recordResourceDeleted resourceTypePipelineRun "ns" operationHistory "build" (3600 * 10 ^ 9) (30 * 10 ^ 9),
          .cleanup (660 * 10 ^ 9),
          .recordResourceDeleted resourceTypePipelineRun "ns" operationHistory "build" (3600 * 10 ^ 9) (660 * 10 ^ 9)] :=
  have hsorted : [RecorderCall.recordUniqueResourceProcessed resourceTypePipelineRun "ns" "build" "success" 0,
      .recordResourceDeleted resourceTypePipelineRun "ns" operationHistory "build" (3600 * 10 ^ 9) (30 * 10 ^ 9),
      .cleanup (660 * 10 ^ 9),
      .recordResourceDeleted resourceTypePipelineRun "ns" operationHistory "build" (3600 * 10 ^ 9) (660 * 10 ^ 9)].Pairwise
        (fun a b => a.op.time ≤ b.op.time) := by
    decide
  ⟨hsorted, runRecorder_eq_lawWrites hsorted⟩

/-- A processing record of the pipeline run `build`, then a second later the
first deletion of the pipeline run `processed-build`: the deletion writes no
counter, because the processing record took its tracker key. -/
theorem processing_record_suppresses_deletion :
    deletionKey resourceTypePipelineRun "ns" ("processed-" ++ "build") =
      deletionKey resourceTypePipelineRun "ns" "processed-build" ∧
    runRecorder newDeletionTracker
        [.recordUniqueResourceProcessed resourceTypePipelineRun "ns" "build" "success" 0,
         .recordResourceDeleted resourceTypePipelineRun "ns" operationHistory "processed-build" (3600 * 10 ^ 9) (10 ^ 9)] =
      [processedWrites resourceTypePipelineRun "ns" "success", []] :=
  ⟨rfl, by decide⟩

end TektonPruner.Metrics
