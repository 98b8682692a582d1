import TektonPruner.Store.Object

/-!
# The deletion tracker

`DeletionTracker` keeps, for each key `resourceType/namespace/name`, the time
it last counted a deletion of it. `RecordDeletion` counts a deletion unless
its key was counted less than a minute before, and a background sweep drops
the entries older than ten minutes. Times are nanoseconds of the monotonic
clock; the two readings of the clock in one `RecordDeletion`, both under the
mutex, are one reading here.

The tracker refines the history of counted calls: from `NewDeletionTracker`,
over calls and sweeps at non-decreasing times, a call is counted exactly when
no counted call on its key lies less than a minute before it. The invariant
`Tracks` ties the map to that history: a stored time is the last counted call
on its key, and a key with no entry was last counted more than a minute ago.
-/

namespace TektonPruner.Metrics

def minute : Int := 60 * 10 ^ 9

theorem minute_pos : 0 < minute := by decide

def deletionKey (resourceType ns name : String) : String :=
  resourceType ++ "/" ++ ns ++ "/" ++ name

/-- With no '/' in the resource types and namespaces, as in `pipelinerun`,
`taskrun` and every Kubernetes namespace, a key names one resource. -/
theorem deletionKey_inj {resourceType ns name resourceType' ns' name' : String}
    (hrt : '/' ∉ resourceType.data) (hns : '/' ∉ ns.data) (hrt' : '/' ∉ resourceType'.data)
    (hns' : '/' ∉ ns'.data) (h : deletionKey resourceType ns name = deletionKey resourceType' ns' name') :
    resourceType = resourceType' ∧ ns = ns' ∧ name = name' := by
  have hdata := congrArg String.data h
  simp only [deletionKey, String.data_append, List.append_assoc, List.singleton_append,
    show ("/" : String).data = ['/'] from rfl] at hdata
  obtain ⟨hrt_eq, hrest⟩ := append_cons_inj_of_not_mem hdata hrt hrt'
  obtain ⟨hns_eq, hname⟩ := append_cons_inj_of_not_mem hrest hns hns'
  exact ⟨String.ext hrt_eq, String.ext hns_eq, String.ext hname⟩

/-- `DeletionTracker` without its mutex, ticker and stop channel: the map
`deletedItems`, as its lookup. -/
structure DeletionTracker where
  deletedItems : String → Option Int

def newDeletionTracker : DeletionTracker := ⟨fun _ => none⟩

def DeletionTracker.set (dt : DeletionTracker) (key : String) (t : Int) : DeletionTracker :=
  ⟨fun k => if k = key then some t else dt.deletedItems k⟩

/-- `RecordDeletion` at clock reading `now`: whether the deletion counts, and the tracker after. -/
def DeletionTracker.recordDeletion (dt : DeletionTracker) (resourceType ns name : String) (now : Int) :
    Bool × DeletionTracker :=
  let key := deletionKey resourceType ns name
  if (dt.deletedItems key).any fun lastDeleted => now - lastDeleted < minute then (false, dt)
  else (true, dt.set key now)

/-- `cleanup` at clock reading `now`: drop the entries before `now - 10 * Minute`. -/
def DeletionTracker.cleanup (dt : DeletionTracker) (now : Int) : DeletionTracker :=
  let cutoff := now - 10 * minute
  ⟨fun key => (dt.deletedItems key).filter fun deletedTime => !(deletedTime < cutoff)⟩

@[simp] theorem DeletionTracker.set_self (dt : DeletionTracker) (key : String) (t : Int) :
    (dt.set key t).deletedItems key = some t := if_pos rfl

@[simp] theorem DeletionTracker.set_ne (dt : DeletionTracker) {key k : String} (t : Int) (h : k ≠ key) :
    (dt.set key t).deletedItems k = dt.deletedItems k := if_neg h

theorem DeletionTracker.cleanup_eq_some {dt : DeletionTracker} {now t : Int} {key : String} :
    (dt.cleanup now).deletedItems key = some t ↔ dt.deletedItems key = some t ∧ now - 10 * minute ≤ t := by
  cases hk : dt.deletedItems key with
  | none => simp [cleanup, hk]
  | some last => by_cases hlt : last < now - 10 * minute <;> simp [cleanup, hk, Option.filter, hlt] <;> omega

theorem DeletionTracker.cleanup_eq_none {dt : DeletionTracker} {now : Int} {key : String} :
    (dt.cleanup now).deletedItems key = none ↔
      ∀ t, dt.deletedItems key = some t → t < now - 10 * minute := by
  cases hk : dt.deletedItems key with
  | none => simp [cleanup, hk]
  | some last => by_cases hlt : last < now - 10 * minute <;> simp [cleanup, hk, Option.filter, hlt] <;> omega

-- ---------------------------------------------------------------------------
-- Runs
-- ---------------------------------------------------------------------------

/-- What reaches the tracker: a `RecordDeletion` call, or a sweep. -/
inductive Op
  | recordDeletion (resourceType ns name : String) (now : Int)
  | cleanup (now : Int)
  deriving DecidableEq, Repr

def Op.time : Op → Int
  | .recordDeletion _ _ _ now => now
  | .cleanup now => now

def DeletionTracker.run : DeletionTracker → List Op → List Bool
  | _, [] => []
  | dt, .recordDeletion resourceType ns name now :: ops =>
    (dt.recordDeletion resourceType ns name now).1 ::
      (dt.recordDeletion resourceType ns name now).2.run ops
  | dt, .cleanup now :: ops => (dt.cleanup now).run ops

def DeletionTracker.exec : DeletionTracker → List Op → DeletionTracker
  | dt, [] => dt
  | dt, .recordDeletion resourceType ns name now :: ops => (dt.recordDeletion resourceType ns name now).2.exec ops
  | dt, .cleanup now :: ops => (dt.cleanup now).exec ops

def Op.record? : Op → Option (String × Int)
  | .recordDeletion resourceType ns name now => some (deletionKey resourceType ns name, now)
  | .cleanup _ => none

def recordsOf (ops : List Op) : List (String × Int) := ops.filterMap Op.record?

-- ---------------------------------------------------------------------------
-- The law the tracker is for
-- ---------------------------------------------------------------------------

/-- A call on `key` at `t` is new: no counted call on `key` lies less than a
minute before it. -/
def Fresh (counted : List (String × Int)) (key : String) (t : Int) : Prop :=
  ∀ c ∈ counted, c.1 = key → minute ≤ t - c.2

instance (counted : List (String × Int)) (key : String) (t : Int) : Decidable (Fresh counted key t) :=
  inferInstanceAs (Decidable (∀ c ∈ counted, _))

/-- The answers the law gives: each call, checked against the calls counted
before it (most recent first in `counted`). -/
def countedAnswers : List (String × Int) → List (String × Int) → List Bool
  | _, [] => []
  | counted, (key, t) :: calls =>
    decide (Fresh counted key t) ::
      countedAnswers (if Fresh counted key t then (key, t) :: counted else counted) calls

-- ---------------------------------------------------------------------------
-- The invariant
-- ---------------------------------------------------------------------------

/-- The map against the counted calls `counted`, at a time `now` no earlier
than any operation so far. -/
structure Tracks (dt : DeletionTracker) (counted : List (String × Int)) (now : Int) : Prop where
  past : ∀ c ∈ counted, c.2 ≤ now
  stored : ∀ key t, dt.deletedItems key = some t → (key, t) ∈ counted ∧ ∀ c ∈ counted, c.1 = key → c.2 ≤ t
  evicted : ∀ key, dt.deletedItems key = none → ∀ c ∈ counted, c.1 = key → c.2 + minute ≤ now

theorem Tracks.init (now : Int) : Tracks newDeletionTracker [] now :=
  ⟨by simp, by simp [newDeletionTracker], by simp⟩

theorem Tracks.mono {dt : DeletionTracker} {counted : List (String × Int)} {now now' : Int}
    (h : Tracks dt counted now) (hle : now ≤ now') : Tracks dt counted now' :=
  ⟨fun c hc => (h.past c hc).trans hle, h.stored,
    fun key hkey c hc hck => (h.evicted key hkey c hc hck).trans hle⟩

section Step

variable {dt : DeletionTracker} {counted : List (String × Int)} {now t : Int}

theorem Tracks.any_iff_not_fresh (h : Tracks dt counted now) (hle : now ≤ t) (key : String) :
    ((dt.deletedItems key).any fun lastDeleted => t - lastDeleted < minute) ↔ ¬ Fresh counted key t := by
  cases hkey : dt.deletedItems key with
  | none =>
    simp only [Option.any_none, Bool.false_eq_true, false_iff, not_not]
    intro c hc hck
    have := h.evicted key hkey c hc hck
    omega
  | some last =>
    obtain ⟨hmem, hmax⟩ := h.stored key last hkey
    simp only [Option.any_some, decide_eq_true_eq, Fresh, not_forall, not_le]
    constructor
    · exact fun hlt => ⟨_, hmem, rfl, hlt⟩
    · rintro ⟨c, hc, hck, hlt⟩
      have := hmax c hc hck
      omega

theorem Tracks.set (h : Tracks dt counted now) (hle : now ≤ t) (key : String) :
    Tracks (dt.set key t) ((key, t) :: counted) t := by
  have hpast : ∀ c ∈ (key, t) :: counted, c.2 ≤ t := by
    rintro c (_ | ⟨_, hc⟩)
    · exact le_rfl
    · exact (h.past c hc).trans hle
  refine ⟨hpast, fun k t' hk => ?_, fun k hk c hc hck => ?_⟩
  · by_cases hkk : k = key
    · subst hkk
      obtain rfl : t = t' := Option.some.inj ((dt.set_self k t).symm.trans hk)
      exact ⟨List.mem_cons_self _ _, fun c hc _ => hpast c hc⟩
    · rw [dt.set_ne t hkk] at hk
      obtain ⟨hmem, hmax⟩ := h.stored k t' hk
      refine ⟨List.mem_cons_of_mem _ hmem, ?_⟩
      rintro c (_ | ⟨_, hc⟩) hck
      · exact absurd hck.symm hkk
      · exact hmax c hc hck
  · by_cases hkk : k = key
    · subst hkk
      simp at hk
    · rw [dt.set_ne t hkk] at hk
      rcases hc with _ | ⟨_, hc⟩
      · exact absurd hck.symm hkk
      · exact (h.evicted k hk c hc hck).trans hle

/-- One `RecordDeletion`: it answers as the law does, and the map tracks the
history with the call added when it counts. -/
theorem Tracks.recordDeletion (h : Tracks dt counted now) (hle : now ≤ t) (resourceType ns name : String) :
    (dt.recordDeletion resourceType ns name t).1 = decide (Fresh counted (deletionKey resourceType ns name) t) ∧
    Tracks (dt.recordDeletion resourceType ns name t).2
      (if Fresh counted (deletionKey resourceType ns name) t then (deletionKey resourceType ns name, t) :: counted
        else counted) t := by
  have hiff := h.any_iff_not_fresh hle (deletionKey resourceType ns name)
  dsimp only [DeletionTracker.recordDeletion]
  by_cases hfresh : Fresh counted (deletionKey resourceType ns name) t
  · rw [if_neg fun hany => hiff.mp hany hfresh, if_pos hfresh, decide_eq_true hfresh]
    exact ⟨rfl, h.set hle _⟩
  · rw [if_pos (hiff.mpr hfresh), if_neg hfresh, decide_eq_false hfresh]
    exact ⟨rfl, h.mono hle⟩

theorem Tracks.cleanup (h : Tracks dt counted now) (hle : now ≤ t) : Tracks (dt.cleanup t) counted t := by
  refine ⟨fun c hc => (h.past c hc).trans hle, fun k t' hk => h.stored k t' (DeletionTracker.cleanup_eq_some.mp hk).1,
    fun k hk c hc hck => ?_⟩
  cases hstored : dt.deletedItems k with
  | none => exact (h.evicted k hstored c hc hck).trans hle
  | some last =>
    have hold := DeletionTracker.cleanup_eq_none.mp hk last hstored
    have hmax := (h.stored k last hstored).2 c hc hck
    have := minute_pos
    omega

end Step

/-- Over operations at non-decreasing times, none before `now`, the tracker
answers as the law does from the history it tracks. -/
theorem Tracks.run {dt : DeletionTracker} {counted : List (String × Int)} {now : Int} {ops : List Op}
    (h : Tracks dt counted now) (hnow : ∀ op ∈ ops, now ≤ op.time)
    (hsorted : ops.Pairwise fun a b => a.time ≤ b.time) :
    dt.run ops = countedAnswers counted (recordsOf ops) := by
  induction ops generalizing dt counted now with
  | nil => rfl
  | cons op ops ih =>
    obtain ⟨hhead, htail⟩ := List.pairwise_cons.mp hsorted
    have hle : now ≤ op.time := hnow op (List.mem_cons_self _ _)
    cases op with
    | recordDeletion resourceType ns name t =>
      change now ≤ t at hle
      obtain ⟨hanswer, hstep⟩ := h.recordDeletion hle resourceType ns name
      simp only [DeletionTracker.run, recordsOf, List.filterMap_cons, Op.record?, countedAnswers, hanswer]
      exact congrArg _ (ih hstep hhead htail)
    | cleanup t => exact ih (h.cleanup hle) hhead htail

/-- From `NewDeletionTracker`, over `RecordDeletion` calls and sweeps at
non-decreasing times, the answers are the law's: a call is counted exactly when
no counted call on its key lies less than a minute before it. -/
theorem run_eq_countedAnswers {ops : List Op} (hsorted : ops.Pairwise fun a b => a.time ≤ b.time) :
    newDeletionTracker.run ops = countedAnswers [] (recordsOf ops) := by
  cases ops with
  | nil => rfl
  | cons op ops =>
    refine (Tracks.init op.time).run (fun o ho => ?_) hsorted
    rcases List.mem_cons.mp ho with rfl | ho
    · exact le_rfl
    · exact (List.pairwise_cons.mp hsorted).1 o ho

/-- The answers depend only on the calls, not on the sweeps: adding or removing
sweeps anywhere, with the times kept non-decreasing, changes no answer. -/
theorem recordDeletion_counts_first_in_window {ops : List Op}
    (hsorted : ops.Pairwise fun a b => a.time ≤ b.time) :
    newDeletionTracker.run ops = countedAnswers [] (recordsOf ops) ∧
    ∀ ops' : List Op, ops'.Pairwise (fun a b => a.time ≤ b.time) → recordsOf ops' = recordsOf ops →
      newDeletionTracker.run ops' = newDeletionTracker.run ops := by
  refine ⟨run_eq_countedAnswers hsorted, fun ops' hsorted' hrecords => ?_⟩
  rw [run_eq_countedAnswers hsorted, run_eq_countedAnswers hsorted', hrecords]

-- ---------------------------------------------------------------------------
-- What the map holds
-- ---------------------------------------------------------------------------

theorem DeletionTracker.recordDeletion_eq_some {dt : DeletionTracker} {resourceType ns name key : String}
    {now t : Int} (h : (dt.recordDeletion resourceType ns name now).2.deletedItems key = some t) :
    dt.deletedItems key = some t ∨ (key = deletionKey resourceType ns name ∧ t = now) := by
  dsimp only [recordDeletion] at h
  split_ifs at h
  · exact .inl h
  · by_cases hk : key = deletionKey resourceType ns name
    · subst hk
      exact .inr ⟨rfl, (Option.some.inj ((dt.set_self _ now).symm.trans h)).symm⟩
    · exact .inl ((dt.set_ne now hk).symm.trans h)

/-- Over operations at non-decreasing times, an entry of the map at the end
was there at the start or is a call of the run, and no sweep of the run has
passed it. -/
theorem DeletionTracker.exec_eq_some {ops : List Op} (hsorted : ops.Pairwise fun a b => a.time ≤ b.time) :
    ∀ {dt : DeletionTracker} {key : String} {t : Int}, (dt.exec ops).deletedItems key = some t →
      (dt.deletedItems key = some t ∨ (key, t) ∈ recordsOf ops) ∧
        ∀ s, Op.cleanup s ∈ ops → s - 10 * minute ≤ t := by
  induction ops with
  | nil => exact fun h => ⟨.inl h, fun _ hs => nomatch hs⟩
  | cons op ops ih =>
    obtain ⟨hhead, htail⟩ := List.pairwise_cons.mp hsorted
    intro dt key t h
    cases op with
    | recordDeletion resourceType ns name now =>
      obtain ⟨hfrom, hswept⟩ := ih htail h
      refine ⟨?_, fun s hs => hswept s ((List.mem_cons.mp hs).resolve_left Op.noConfusion)⟩
      rcases hfrom with hfrom | hfrom
      · rcases recordDeletion_eq_some hfrom with hfrom | ⟨rfl, rfl⟩
        · exact .inl hfrom
        · exact .inr (List.mem_filterMap.mpr ⟨_, List.mem_cons_self _ _, rfl⟩)
      · exact .inr (List.mem_filterMap.mpr (by
          obtain ⟨o, ho, hr⟩ := List.mem_filterMap.mp hfrom
          exact ⟨o, List.mem_cons_of_mem _ ho, hr⟩))
    | cleanup now =>
      obtain ⟨hfrom, hswept⟩ := ih htail h
      have hnow : now - 10 * minute ≤ t := by
        rcases hfrom with hfrom | hfrom
        · exact (cleanup_eq_some.mp hfrom).2
        · obtain ⟨o, ho, hr⟩ := List.mem_filterMap.mp hfrom
          have hle : now ≤ o.time := hhead o ho
          cases o with
          | recordDeletion _ _ _ t' =>
            obtain ⟨-, rfl⟩ := Prod.mk.inj (Option.some.inj hr)
            have := minute_pos
            change now ≤ t' at hle
            omega
          | cleanup _ => exact nomatch hr
      refine ⟨?_, fun s hs => ?_⟩
      · rcases hfrom with hfrom | hfrom
        · exact .inl (cleanup_eq_some.mp hfrom).1
        · exact .inr (by simpa [recordsOf, Op.record?] using hfrom)
      · rcases List.mem_cons.mp hs with hs | hs
        · obtain rfl := Op.cleanup.inj hs
          exact hnow
        · exact hswept s hs

/-- From `NewDeletionTracker`, over calls and sweeps at non-decreasing times,
the map holds only calls of the run made at most ten minutes before every
sweep: one entry per key, and none older than the last sweep's cutoff, so the
map never holds more keys than were called in the ten minutes before the last
sweep and since. -/
theorem exec_holds_only_recent_calls {ops : List Op} (hsorted : ops.Pairwise fun a b => a.time ≤ b.time)
    (key : String) (t : Int) (h : (newDeletionTracker.exec ops).deletedItems key = some t) :
    (key, t) ∈ recordsOf ops ∧ ∀ s, Op.cleanup s ∈ ops → s - 10 * minute ≤ t := by
  obtain ⟨hfrom, hswept⟩ := DeletionTracker.exec_eq_some hsorted h
  exact ⟨hfrom.resolve_left (fun h => nomatch h), hswept⟩

theorem sweep_keeps_recent_call :
    [Op.recordDeletion "pipelinerun" "ns" "build" 0, .recordDeletion "pipelinerun" "ns" "test" (660 * 10 ^ 9),
      .cleanup (660 * 10 ^ 9)].Pairwise (fun a b => a.time ≤ b.time) ∧
    (newDeletionTracker.exec [.recordDeletion "pipelinerun" "ns" "build" 0,
      .recordDeletion "pipelinerun" "ns" "test" (660 * 10 ^ 9), .cleanup (660 * 10 ^ 9)]).deletedItems
        (deletionKey "pipelinerun" "ns" "test") = some (660 * 10 ^ 9) ∧
    (deletionKey "pipelinerun" "ns" "test", 660 * 10 ^ 9) ∈ recordsOf [.recordDeletion "pipelinerun" "ns" "build" 0,
      .recordDeletion "pipelinerun" "ns" "test" (660 * 10 ^ 9), .cleanup (660 * 10 ^ 9)] ∧
    ∀ s, Op.cleanup s ∈ [Op.recordDeletion "pipelinerun" "ns" "build" 0,
      .recordDeletion "pipelinerun" "ns" "test" (660 * 10 ^ 9), .cleanup (660 * 10 ^ 9)] →
      s - 10 * minute ≤ 660 * 10 ^ 9 :=
  have hsorted : [Op.recordDeletion "pipelinerun" "ns" "build" 0,
      .recordDeletion "pipelinerun" "ns" "test" (660 * 10 ^ 9), .cleanup (660 * 10 ^ 9)].Pairwise
        (fun a b => a.time ≤ b.time) := by
    decide
  have hstored : (newDeletionTracker.exec [.recordDeletion "pipelinerun" "ns" "build" 0,
      .recordDeletion "pipelinerun" "ns" "test" (660 * 10 ^ 9), .cleanup (660 * 10 ^ 9)]).deletedItems
        (deletionKey "pipelinerun" "ns" "test") = some (660 * 10 ^ 9) := by
    decide
  ⟨hsorted, hstored, exec_holds_only_recent_calls hsorted _ _ hstored⟩

example : (newDeletionTracker.exec [.recordDeletion "pipelinerun" "ns" "build" 0,
    .recordDeletion "pipelinerun" "ns" "test" (660 * 10 ^ 9), .cleanup (660 * 10 ^ 9)]).deletedItems
      (deletionKey "pipelinerun" "ns" "build") = none := by
  decide

-- ---------------------------------------------------------------------------
-- Keys do not interfere
-- ---------------------------------------------------------------------------

def Op.onKey (key : String) (op : Op) : Bool := op.record?.any (·.1 == key)

theorem recordsOf_filter_onKey (key : String) (ops : List Op) :
    recordsOf (ops.filter (Op.onKey key)) = (recordsOf ops).filter (·.1 == key) := by
  induction ops with
  | nil => rfl
  | cons op ops ih =>
    cases op with
    | recordDeletion resourceType ns name now =>
      by_cases h : deletionKey resourceType ns name = key <;>
        simpa [recordsOf, Op.onKey, Op.record?, List.filter_cons, h] using ih
    | cleanup now => simpa [recordsOf, Op.onKey, Op.record?, List.filter_cons] using ih

theorem fresh_filter_key (counted : List (String × Int)) (key : String) (t : Int) :
    Fresh (counted.filter (·.1 == key)) key t ↔ Fresh counted key t := by
  simp only [Fresh, List.mem_filter, beq_iff_eq, and_imp]
  exact ⟨fun h c hc hck => h c hc hck hck, fun h c hc hck _ => h c hc hck⟩

theorem countedAnswers_filter_key (key : String) :
    ∀ (counted calls : List (String × Int)),
      (((calls.zip (countedAnswers counted calls)).filter (·.1.1 == key)).map (·.2)) =
        countedAnswers (counted.filter (·.1 == key)) (calls.filter (·.1 == key))
  | _, [] => rfl
  | counted, (k, t) :: calls => by
    have ih := countedAnswers_filter_key key (if Fresh counted k t then (k, t) :: counted else counted) calls
    by_cases hk : k = key
    · subst hk
      have hfresh := fresh_filter_key counted k t
      by_cases hf : Fresh counted k t <;>
        simp_all [countedAnswers, List.filter_cons]
    · have hcounted : (if Fresh counted k t then (k, t) :: counted else counted).filter (·.1 == key) =
          counted.filter (·.1 == key) := by
        split_ifs <;> simp [List.filter_cons, hk]
      simpa [countedAnswers, List.filter_cons, hk, hcounted] using ih

/-- From `NewDeletionTracker`, over calls and sweeps at non-decreasing times,
the answers to the calls on one key are those the tracker gives when only the
calls on that key are made: calls on other keys and sweeps change none of them. -/
theorem recordDeletion_answers_per_key {ops : List Op} (hsorted : ops.Pairwise fun a b => a.time ≤ b.time)
    (key : String) :
    (((recordsOf ops).zip (newDeletionTracker.run ops)).filter (·.1.1 == key)).map (·.2) =
      newDeletionTracker.run (ops.filter (Op.onKey key)) := by
  rw [run_eq_countedAnswers hsorted, run_eq_countedAnswers (hsorted.sublist (List.filter_sublist _)),
    recordsOf_filter_onKey, countedAnswers_filter_key]
  rfl

theorem other_key_between_duplicates :
    [Op.recordDeletion "pipelinerun" "ns" "build" 0, .recordDeletion "pipelinerun" "ns" "test" (10 * 10 ^ 9),
      .recordDeletion "pipelinerun" "ns" "build" (30 * 10 ^ 9)].Pairwise (fun a b => a.time ≤ b.time) ∧
    (((recordsOf [.recordDeletion "pipelinerun" "ns" "build" 0, .recordDeletion "pipelinerun" "ns" "test" (10 * 10 ^ 9),
        .recordDeletion "pipelinerun" "ns" "build" (30 * 10 ^ 9)]).zip
      (newDeletionTracker.run [.recordDeletion "pipelinerun" "ns" "build" 0,
        .recordDeletion "pipelinerun" "ns" "test" (10 * 10 ^ 9), .recordDeletion "pipelinerun" "ns" "build" (30 * 10 ^ 9)])).filter
        (·.1.1 == deletionKey "pipelinerun" "ns" "build")).map (·.2) =
      newDeletionTracker.run ([.recordDeletion "pipelinerun" "ns" "build" 0,
        .recordDeletion "pipelinerun" "ns" "test" (10 * 10 ^ 9), .recordDeletion "pipelinerun" "ns" "build" (30 * 10 ^ 9)].filter
        (Op.onKey (deletionKey "pipelinerun" "ns" "build"))) :=
  have hsorted : [Op.recordDeletion "pipelinerun" "ns" "build" 0, .recordDeletion "pipelinerun" "ns" "test" (10 * 10 ^ 9),
      .recordDeletion "pipelinerun" "ns" "build" (30 * 10 ^ 9)].Pairwise (fun a b => a.time ≤ b.time) := by
    decide
  ⟨hsorted, recordDeletion_answers_per_key hsorted _⟩

/-- Two deletions of one run 30 s apart, a sweep at 11 min and a third
deletion then: the second is a duplicate, the third counts again. -/
theorem duplicate_within_minute_then_counted :
    [Op.recordDeletion "pipelinerun" "ns" "build" 0, .recordDeletion "pipelinerun" "ns" "build" (30 * 10 ^ 9),
      .cleanup (660 * 10 ^ 9), .recordDeletion "pipelinerun" "ns" "build" (660 * 10 ^ 9)].Pairwise
        (fun a b => a.time ≤ b.time) ∧
    newDeletionTracker.run [.recordDeletion "pipelinerun" "ns" "build" 0,
        .recordDeletion "pipelinerun" "ns" "build" (30 * 10 ^ 9), .cleanup (660 * 10 ^ 9),
        .recordDeletion "pipelinerun" "ns" "build" (660 * 10 ^ 9)] =
      countedAnswers [] (recordsOf [.recordDeletion "pipelinerun" "ns" "build" 0,
        .recordDeletion "pipelinerun" "ns" "build" (30 * 10 ^ 9), .cleanup (660 * 10 ^ 9),
        .recordDeletion "pipelinerun" "ns" "build" (660 * 10 ^ 9)]) ∧
    ∀ ops' : List Op, ops'.Pairwise (fun a b => a.time ≤ b.time) →
      recordsOf ops' = recordsOf [.recordDeletion "pipelinerun" "ns" "build" 0,
        .recordDeletion "pipelinerun" "ns" "build" (30 * 10 ^ 9), .cleanup (660 * 10 ^ 9),
        .recordDeletion "pipelinerun" "ns" "build" (660 * 10 ^ 9)] →
      newDeletionTracker.run ops' = newDeletionTracker.run [.recordDeletion "pipelinerun" "ns" "build" 0,
        .recordDeletion "pipelinerun" "ns" "build" (30 * 10 ^ 9), .cleanup (660 * 10 ^ 9),
        .recordDeletion "pipelinerun" "ns" "build" (660 * 10 ^ 9)] :=
  have hsorted : [Op.recordDeletion "pipelinerun" "ns" "build" 0,
      .recordDeletion "pipelinerun" "ns" "build" (30 * 10 ^ 9), .cleanup (660 * 10 ^ 9),
      .recordDeletion "pipelinerun" "ns" "build" (660 * 10 ^ 9)].Pairwise (fun a b => a.time ≤ b.time) := by
    decide
  ⟨hsorted, recordDeletion_counts_first_in_window hsorted⟩

example : newDeletionTracker.run [.recordDeletion "pipelinerun" "ns" "build" 0,
    .recordDeletion "pipelinerun" "ns" "build" (30 * 10 ^ 9), .cleanup (660 * 10 ^ 9),
    .recordDeletion "pipelinerun" "ns" "build" (660 * 10 ^ 9)] = [true, false, true] := by
  decide

end TektonPruner.Metrics
