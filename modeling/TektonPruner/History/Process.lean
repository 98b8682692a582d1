import TektonPruner.History.Cleanup
import TektonPruner.Lock.Locker

/-!
# Processing one event

`ProcessEvent` skips a resource that carries the history-limit-processed
marker or is not completed. Otherwise it marks the resource as processed and
runs the successful and the failed cleanup passes its status calls for,
returning the first error.

`markAsProcessed` re-reads the resource and sends back its whole annotation
map, with the marker set to the current time, as one merge patch. That patch
sets every annotation the read saw back to the value read, so a change another
client made in between to one of them is undone. Its errors are logged and
dropped, and it runs before the passes: a pass that fails leaves a resource
already marked, which the next `ProcessEvent` skips.

The marker is formatted in UTC, the time zone of the controller's container.
-/

namespace TektonPruner.History

open Prog

-- ---------------------------------------------------------------------------
-- `time.Now().Format(time.RFC3339)`
-- ---------------------------------------------------------------------------

/-- The proleptic Gregorian date `(year, month, day)` of a day counted from 1970-01-01. -/
def civilFromDays (z : Int) : Int × Int × Int :=
  let z := z + 719468
  let era := z / 146097
  let doe := z - era * 146097
  let yoe := (doe - doe / 1460 + doe / 36524 - doe / 146096) / 365
  let doy := doe - (365 * yoe + yoe / 4 - yoe / 100)
  let mp := (5 * doy + 2) / 153
  let m := if mp < 10 then mp + 3 else mp - 9
  (if m ≤ 2 then yoe + era * 400 + 1 else yoe + era * 400, m, doy - (153 * mp + 2) / 5 + 1)

def padInt (width : Nat) (n : Int) : String :=
  let digits := toString n.natAbs
  (if n < 0 then "-" else "") ++ String.mk (List.replicate (width - digits.length) '0') ++ digits

/-- `time.Now().Format(time.RFC3339)` at Unix second `t`, in UTC. -/
def formatRFC3339 (t : Int) : String :=
  let (y, m, d) := civilFromDays (t / 86400)
  let secs := t % 86400
  padInt 4 y ++ "-" ++ padInt 2 m ++ "-" ++ padInt 2 d ++ "T" ++ padInt 2 (secs / 3600) ++ ":" ++
    padInt 2 (secs % 3600 / 60) ++ ":" ++ padInt 2 (secs % 60) ++ "Z"

example : formatRFC3339 0 = "1970-01-01T00:00:00Z" := rfl

example : formatRFC3339 1709251199 = "2024-02-29T23:59:59Z" := rfl

-- ---------------------------------------------------------------------------
-- The model
-- ---------------------------------------------------------------------------

def HistoryLimiter.isProcessed (hl : HistoryLimiter) (resource : Obj) : Bool :=
  (resource.annotations.get? hl.AnnotationHistoryLimitCheckProcessed).isSome

/-- The patch `markAsProcessed` sends for the re-read `resourceLatest` at clock reading `t`. -/
def HistoryLimiter.processedPatch (hl : HistoryLimiter) (resourceLatest : Obj) (t : Int) : AnnotationPatch :=
  (resourceLatest.annotations.set hl.AnnotationHistoryLimitCheckProcessed (formatRFC3339 t)).toPatch

def HistoryLimiter.markAsProcessed (hl : HistoryLimiter) (resource : Obj) : Prog Unit :=
  get resource.ns resource.name fun
    | .error _ => ret ()
    | .ok resourceLatest => now fun t =>
      patch resourceLatest.ns resourceLatest.name (hl.processedPatch resourceLatest t) fun _ => ret ()

def HistoryLimiter.cleanupByStatus (hl : HistoryLimiter) (resource : Obj) : Prog (Except LimiterError Unit) :=
  (if isSuccessful resource then hl.doSuccessfulResourceCleanup resource else ret (.ok ())).bind fun
    | .error err => ret (.error err)
    | .ok () => if isFailed resource then hl.doFailedResourceCleanup resource else ret (.ok ())

def HistoryLimiter.processEvent (hl : HistoryLimiter) (resource : Obj) : Prog (Except LimiterError Unit) :=
  if hl.isProcessed resource then ret (.ok ())
  else if !isCompleted resource then ret (.ok ())
  else (hl.markAsProcessed resource).bind fun () => hl.cleanupByStatus resource

section Laws

variable (hl : HistoryLimiter)

theorem markAsProcessed_runs {resource : Obj} {es : List Event} {o : Outcome Unit}
    (h : (hl.markAsProcessed resource).Runs es o) :
    o = .returned () ∧ ((∃ err, es = [.get resource.ns resource.name (.error err)]) ∨
      ∃ latest t r, es = [.get resource.ns resource.name (.ok latest), .now t,
        .patch latest.ns latest.name (hl.processedPatch latest t) r]) := by
  obtain ⟨r, es, rfl, h₁⟩ := runs_get_iff.mp h
  rcases r with err | latest
  · obtain ⟨rfl, rfl⟩ := runs_ret_iff.mp h₁
    exact ⟨rfl, .inl ⟨err, rfl⟩⟩
  · obtain ⟨t, es, rfl, h₂⟩ := runs_now_iff.mp h₁
    obtain ⟨r, es, rfl, h₃⟩ := runs_patch_iff.mp h₂
    obtain ⟨rfl, rfl⟩ := runs_ret_iff.mp h₃
    exact ⟨rfl, .inr ⟨latest, t, r, rfl⟩⟩

/-- When `markAsProcessed`'s patch lands, the marker holds the time, every other
annotation the re-read saw is back to the value it saw, whatever was written in
between, and the annotations it did not see are kept. -/
theorem annotation?_processedPatch {s : Store} {latest current : Obj}
    (hcur : s.find? latest.ns latest.name = some current) (t : Int) (k : String) :
    (s.patch latest.ns latest.name (hl.processedPatch latest t)).annotation? latest.ns latest.name k =
      if k = hl.AnnotationHistoryLimitCheckProcessed then some (formatRFC3339 t)
      else (latest.annotations.get? k).or (current.annotations.get? k) := by
  rw [Store.annotation?_patch, hcur]
  simp only [Option.bind_some, HistoryLimiter.processedPatch, StringMap.get?_mergePatch_toPatch,
    StringMap.get?_set]
  split_ifs <;> rfl

theorem cleanupByStatus_calls_noPatch (resource : Obj) :
    CallsSatisfy (fun e => e.isPatch = false) (hl.cleanupByStatus resource) :=
  .bind (.ite (doResourceCleanup_calls_noPatch _ _ _ _) (.ret _)) fun r => by
    rcases r with err | ⟨⟩
    · exact .ret _
    · exact .ite (doResourceCleanup_calls_noPatch _ _ _ _) (.ret _)

/-- A `ProcessEvent` that fails has run `markAsProcessed` to the end, and then
the passes, which failed. -/
theorem processEvent_runs_error {resource : Obj} {es : List Event} {err : LimiterError}
    (h : (hl.processEvent resource).Runs es (.returned (.error err))) :
    ∃ es₁ es₂, es = es₁ ++ es₂ ∧ (hl.markAsProcessed resource).Runs es₁ (.returned ()) ∧
      (hl.cleanupByStatus resource).Runs es₂ (.returned (.error err)) := by
  unfold HistoryLimiter.processEvent at h
  split_ifs at h
  · cases (runs_ret_iff.mp h).2
  · cases (runs_ret_iff.mp h).2
  · rcases Runs.of_bind h with ⟨es₁, es₂, ⟨⟩, rfl, h₁, h₂⟩ | ⟨m, hm, -⟩
    · exact ⟨es₁, es₂, rfl, h₁, h₂⟩
    · cases hm

/-- A failed `ProcessEvent` whose marker patch was answered with success: its
calls are the re-read, the clock, that patch, and then calls that patch nothing. -/
theorem processEvent_runs_error_marked {resource : Obj} {es : List Event} {err : LimiterError}
    (h : (hl.processEvent resource).Runs es (.returned (.error err)))
    (hmarked : ∃ p, .patch resource.ns resource.name p (.ok ()) ∈ es) :
    ∃ latest t es₂, latest.ns = resource.ns ∧ latest.name = resource.name ∧
      es = [.get resource.ns resource.name (.ok latest), .now t] ++
        .patch latest.ns latest.name (hl.processedPatch latest t) (.ok ()) :: es₂ ∧
      ∀ e ∈ es₂, e.isPatch = false := by
  obtain ⟨es₁, es₂, rfl, hmark, hpasses⟩ := processEvent_runs_error hl h
  have hrest := cleanupByStatus_calls_noPatch hl resource _ _ hpasses
  obtain ⟨p, hp⟩ := hmarked
  obtain ⟨-, ⟨_, rfl⟩ | ⟨latest, t, r, rfl⟩⟩ := markAsProcessed_runs hl hmark <;>
    rcases List.mem_append.mp hp with hp | hp
  · simp at hp
  · cases hrest _ hp
  · simp only [List.mem_cons, List.mem_singleton, List.not_mem_nil, or_false, reduceCtorEq, false_or,
      Event.patch.injEq] at hp
    obtain ⟨hns, hname, -, rfl⟩ := hp
    exact ⟨latest, t, es₂, hns.symm, hname.symm, rfl, hrest⟩
  · cases hrest _ hp

end Laws

-- ---------------------------------------------------------------------------
-- A lock released while the marker is written
-- ---------------------------------------------------------------------------

def oneSuccessLimiter : HistoryLimiter := fixedLimiter (some 1) none insertionSortSlice

/-- `markAsProcessed` re-reads a run that instance A has locked; A's
`ReleaseLock` lands; then the marker patch. -/
def releaseDuringMarkTrace : List Label :=
  [.call 0 (.get "ns" "build-1" (.ok (lockTarget (some "pruner-a:0")))),
    .call 1 (.patch "ns" "build-1" unlockPatch (.ok ())),
    .call 0 (.now 0),
    .call 0 (.patch "ns" "build-1"
      (oneSuccessLimiter.processedPatch (lockTarget (some "pruner-a:0")) 0)
      (.ok ()))]

theorem releaseDuringMarkTrace_run :
    ∃ seen, Store.Run (fun _ _ _ => False) (lockStore (some "pruner-a:0")) releaseDuringMarkTrace seen
      (((lockStore (some "pruner-a:0")).patch "ns" "build-1" unlockPatch).patch "ns" "build-1"
        (oneSuccessLimiter.processedPatch (lockTarget (some "pruner-a:0")) 0)) :=
  Store.Run.cons (.getFound rfl) <| Store.Run.cons (.patchFound _ rfl) <| Store.Run.cons (.now _ 0) <|
    Store.Run.cons (.patchFound _ rfl) <| ⟨_, .nil _⟩

/-- A's release alone would leave no lock, but the marker patch writes A's lock
back, as the re-read had seen it. -/
theorem markAsProcessed_restores_released_lock :
    ∃ s seen, Store.Run (fun _ _ _ => False) (lockStore (some "pruner-a:0")) releaseDuringMarkTrace seen s ∧
      (oneSuccessLimiter.markAsProcessed (lockTarget (some "pruner-a:0"))).Runs (callsOf releaseDuringMarkTrace 0)
        (.returned ()) ∧
      (lockerA.releaseLock (lockTarget (some "pruner-a:0"))).Runs (callsOf releaseDuringMarkTrace 1)
        (.returned (.ok ())) ∧
      ((lockStore (some "pruner-a:0")).patch "ns" "build-1" unlockPatch).annotation? "ns" "build-1"
        prunerLockAnnotation = none ∧
      s.annotation? "ns" "build-1" oneSuccessLimiter.AnnotationHistoryLimitCheckProcessed =
        some (formatRFC3339 0) ∧
      s.annotation? "ns" "build-1" prunerLockAnnotation = some "pruner-a:0" :=
  let ⟨seen, hrun⟩ := releaseDuringMarkTrace_run
  ⟨_, seen, hrun, rfl, rfl, rfl, rfl, rfl⟩

-- ---------------------------------------------------------------------------
-- A failed pass and the next event
-- ---------------------------------------------------------------------------

/-- Once the marker patch has succeeded, the marker stays on the stored resource
through any calls that do not patch, unless the resource is deleted. -/
theorem Store.Run.marker_kept {s₀ s : Store} {tr : List Label} {seen : List Obj} {ns name k v : String}
    (hrun : Store.Run (fun _ _ _ => False) s₀ tr seen s)
    (hcalls : ∀ tid e, Label.call tid e ∈ tr → e.isPatch = false)
    (h₀ : s₀.annotation? ns name k = some v) :
    s.annotation? ns name k = some v ∨ s.find? ns name = none := by
  have step : ∀ tid e (a b : Store), Label.call tid e ∈ tr →
      (a.annotation? ns name k = some v ∨ a.find? ns name = none) → a.Answers e b →
        (b.annotation? ns name k = some v ∨ b.find? ns name = none) := fun tid e _ _ hm hs hans =>
    hs.elim (hans.annotation?_of_not_patch (hcalls tid e hm)) fun hnone => .inr (hans.find?_eq_none hnone)
  exact hrun.invariant step (fun _ _ _ h => h.elim) (.inl h₀)

/-- A `ProcessEvent` that fails has marked the resource before its passes ran:
its calls are `markAsProcessed`'s, run to the end, then the failed passes'. If the
marker patch was answered with success, the stored resource carries the
marker, and `ProcessEvent` on it returns `nil` at once, making no call: the
failed pass is not run again. -/
theorem processEvent_failure_not_retried {hl : HistoryLimiter} {s₀ s : Store} {tr : List Label}
    {seen : List Obj} {resource : Obj} {err : LimiterError}
    (hrun : Store.Run (fun _ _ _ => False) s₀ tr seen s) (hsolo : ∀ tid, tid ≠ 0 → callsOf tr tid = [])
    (h : (hl.processEvent resource).Runs (callsOf tr 0) (.returned (.error err))) :
    (∃ es₁ es₂, callsOf tr 0 = es₁ ++ es₂ ∧ (hl.markAsProcessed resource).Runs es₁ (.returned ()) ∧
      (hl.cleanupByStatus resource).Runs es₂ (.returned (.error err))) ∧
    ∀ stored, (∃ p, .patch resource.ns resource.name p (.ok ()) ∈ callsOf tr 0) →
      s.find? resource.ns resource.name = some stored →
      hl.isProcessed stored = true ∧ (hl.processEvent stored).Runs [] (.returned (.ok ())) := by
  refine ⟨processEvent_runs_error hl h, fun stored hmarked hstored => ?_⟩
  obtain ⟨latest, t, es₂, hns, hname, hcalls, hrest⟩ := processEvent_runs_error_marked hl h hmarked
  obtain ⟨T₁, T₂, rfl, -, hT₂⟩ := exists_split_of_callsOf_eq hcalls
  obtain ⟨s₁, s₂, _, _, -, hpatch, hrun₂⟩ := Store.Run.split_call hrun
  cases hpatch with
  | patchFound _ hfound =>
    obtain ⟨current, hcur⟩ := Option.isSome_iff_exists.mp hfound
    have hmarker := annotation?_processedPatch hl hcur t hl.AnnotationHistoryLimitCheckProcessed
    rw [if_pos rfl] at hmarker
    have hkept := Store.Run.marker_kept hrun₂ (fun tid e hm => ?_) hmarker
    · have hget : stored.annotations.get? hl.AnnotationHistoryLimitCheckProcessed = some (formatRFC3339 t) := by
        simpa [Store.annotation?, hns, hname, hstored] using hkept
      have hprocessed : hl.isProcessed stored = true := by simp [HistoryLimiter.isProcessed, hget]
      exact ⟨hprocessed, by simp only [HistoryLimiter.processEvent, hprocessed, if_true]; rfl⟩
    · by_cases htid : tid = 0
      · subst htid
        exact hrest e (hT₂ ▸ mem_callsOf hm)
      · have hquiet := hsolo tid htid
        simp only [callsOf_append, callsOf_cons_call_of_ne (Ne.symm htid), List.append_eq_nil] at hquiet
        exact absurd (hquiet.2 ▸ mem_callsOf hm) (List.not_mem_nil _)

/-- `ProcessEvent` on a succeeded run with a success limit of 1: the marker patch
succeeds, then the successful pass's `List` fails. -/
def listFailureTrace : List Label :=
  [.call 0 (.get "ns" "build-1" (.ok (buildRun "build-1" 100 .succeeded))), .call 0 (.now 0),
    .call 0 (.patch "ns" "build-1"
      (oneSuccessLimiter.processedPatch (buildRun "build-1" 100 .succeeded) 0)
      (.ok ())),
    .call 0 (.list "ns" "tekton.dev/pipeline" "build" (.error (.other "etcdserver: request timed out")))]

def runStore : Store := ⟨[buildRun "build-1" 100 .succeeded], List.nodup_singleton _⟩

def markedRun : Obj :=
  { buildRun "build-1" 100 .succeeded with
    annotations := [("pruner.tekton.dev/history-limit-processed", "1970-01-01T00:00:00Z")] }

theorem listFailureTrace_run :
    ∃ seen, Store.Run (fun _ _ _ => False) runStore listFailureTrace seen
      (runStore.patch "ns" "build-1"
        (oneSuccessLimiter.processedPatch (buildRun "build-1" 100 .succeeded) 0)) :=
  Store.Run.cons (.getFound rfl) <| Store.Run.cons (.now _ 0) <| Store.Run.cons (.patchFound _ rfl) <|
    Store.Run.cons (.listFailed _ _ _ _ _) <| ⟨_, .nil _⟩

theorem listFailureTrace_fails :
    (oneSuccessLimiter.processEvent (buildRun "build-1" 100 .succeeded)).Runs
      (callsOf listFailureTrace 0) (.returned (.error (.store (.other "etcdserver: request timed out")))) :=
  rfl

/-- The pass fails on `List`, and `ProcessEvent` on the run as now stored
returns `nil` without a call: the pass does not run again. -/
theorem failed_pass_skipped_on_retry :
    ∃ s seen, Store.Run (fun _ _ _ => False) runStore listFailureTrace seen s ∧
      (oneSuccessLimiter.processEvent (buildRun "build-1" 100 .succeeded)).Runs
        (callsOf listFailureTrace 0) (.returned (.error (.store (.other "etcdserver: request timed out")))) ∧
      s.find? "ns" "build-1" = some markedRun ∧
      (oneSuccessLimiter.processEvent markedRun).Runs [] (.returned (.ok ())) :=
  let ⟨seen, hrun⟩ := listFailureTrace_run
  ⟨_, seen, hrun, listFailureTrace_fails, rfl, rfl⟩

theorem list_failure_marked_and_skipped :
    (∃ es₁ es₂, callsOf listFailureTrace 0 = es₁ ++ es₂ ∧
      (oneSuccessLimiter.markAsProcessed (buildRun "build-1" 100 .succeeded)).Runs es₁ (.returned ()) ∧
      (oneSuccessLimiter.cleanupByStatus (buildRun "build-1" 100 .succeeded)).Runs es₂
        (.returned (.error (.store (.other "etcdserver: request timed out"))))) ∧
    oneSuccessLimiter.isProcessed markedRun = true ∧
      (oneSuccessLimiter.processEvent markedRun).Runs [] (.returned (.ok ())) :=
  let ⟨_, hrun⟩ := listFailureTrace_run
  have h := processEvent_failure_not_retried hrun
    (fun tid h0 => by simp [listFailureTrace, callsOf, Ne.symm h0]) listFailureTrace_fails
  ⟨h.1, h.2 markedRun ⟨_, .tail _ (.tail _ (.head _))⟩ rfl⟩

end TektonPruner.History
