import TektonPruner.Config.Types
import TektonPruner.Store.Prog

/-!
# One history cleanup pass

`doResourceCleanup` resolves the limit for the resource's grouping, lists
the siblings, keeps the completed ones that pass the status filter, and when
there are more than the limit sorts them by creation time and deletes the
excess from the front. `NotFound` on a delete is skipped; any other error ends
the pass.

The loop runs `len(completedResources) - int(*historyLimit)` times and
indexes `completedResources[i]`. For a limit of zero or more that count is at
most the length; for a negative limit it is more, and the pass panics with an
index out of range once every sibling has been deleted.

`sort.Slice` is a parameter (`SortSlice`): any algorithm with its contract,
that is a permutation ordered by creation time. It is not stable, and it
breaks no ties by name.
-/

namespace TektonPruner.History

open Prog

/-- `IsCompleted`, `IsSuccessful` and `IsFailed` are modelled from the spec, as
the source does not hold them: a run in a terminal state, succeeded, failed. -/
def isCompleted (o : Obj) : Bool := o.status != .unknown

def isSuccessful (o : Obj) : Bool := o.status == .succeeded

def isFailed (o : Obj) : Bool := o.status == .failed

structure SelectorSpec where
  matchAnnotations : StringMap
  matchLabels : StringMap
  deriving DecidableEq, Repr

/-- `getResourceSelectors`; a nil map and an empty one read the same. -/
def getResourceSelectors (resource : Obj) : SelectorSpec :=
  { matchAnnotations := resource.annotations, matchLabels := resource.labels }

/-- `b` is not `Before` `a` by creation time: `a` may sort ahead of `b`. -/
def NotAfter (a b : Obj) : Prop := a.creationTimestamp ≤ b.creationTimestamp

instance : DecidableRel NotAfter := fun a b =>
  inferInstanceAs (Decidable (a.creationTimestamp ≤ b.creationTimestamp))

instance : IsTotal Obj NotAfter := ⟨fun a b => le_total a.creationTimestamp b.creationTimestamp⟩

instance : IsTrans Obj NotAfter := ⟨fun _ _ _ => le_trans⟩

/-- An algorithm with the contract of `sort.Slice` under the `Before`
comparison of creation times. -/
structure SortSlice where
  sort : List Obj → List Obj
  perm : ∀ l, (sort l).Perm l
  sorted : ∀ l, (sort l).Sorted NotAfter

/-- Insertion sort, which keeps equal elements in input order. It is what
`sort.Slice` runs on a slice of at most 12 elements. -/
def insertionSortSlice : SortSlice where
  sort := List.insertionSort NotAfter
  perm := List.perm_insertionSort NotAfter
  sorted := List.sorted_insertionSort NotAfter

/-- The `error`s a cleanup pass returns: a store error as it came, or one
wrapped by `fmt.Errorf("failed to delete resource %s/%s: %w", ...)`. -/
inductive LimiterError
  | store (err : StatusError)
  | failedToDelete (ns name : String) (err : StatusError)
  deriving DecidableEq, Repr

/-- A `HistoryLimiter` with what it needs that the source does not hold: the
limit lookups and default label key of its `resourceFn` table, the helpers
that name a resource's grouping, the processed-marker key, and the algorithm
behind `sort.Slice`. -/
structure HistoryLimiter where
  GetDefaultLabelKey : String
  GetSuccessHistoryLimitCount : String → String → SelectorSpec → Option Int32
  GetFailedHistoryLimitCount : String → String → SelectorSpec → Option Int32
  getResourceNameLabelKey : Obj → String → String
  getResourceName : Obj → String → String
  AnnotationHistoryLimitCheckProcessed : String
  sortSlice : SortSlice

def indexOutOfRange : String := "runtime error: index out of range"

/-- `for i := 0; i < resourcesToDelete; i++ { res := completedResources[i]; ... }`. -/
def deleteLoop : List Obj → Nat → Prog (Except LimiterError Unit)
  | _, 0 => ret (.ok ())
  | [], _ + 1 => Prog.panic indexOutOfRange
  | res :: rest, n + 1 => delete res.ns res.name fun
    | .ok () => deleteLoop rest n
    | .error err =>
      match err with
      | .notFound => deleteLoop rest n
      | .other _ => ret (.error (.failedToDelete res.ns res.name err))

def completedOf (getResourceFilterFn : Obj → Bool) (resources : List Obj) : List Obj :=
  resources.filter fun res => isCompleted res && getResourceFilterFn res

def resourcesToDelete (completedResources : List Obj) (historyLimit : Int32) : Nat :=
  (completedResources.length - historyLimit.toInt).toNat

/-- The pass once `List` has returned `resources`. -/
def HistoryLimiter.cleanupListed (hl : HistoryLimiter) (historyLimit : Int32)
    (getResourceFilterFn : Obj → Bool) (resources : List Obj) : Prog (Except LimiterError Unit) :=
  let completedResources := completedOf getResourceFilterFn resources
  if (completedResources.length : Int) ≤ historyLimit.toInt then ret (.ok ())
  else deleteLoop (hl.sortSlice.sort completedResources) (resourcesToDelete completedResources historyLimit)

def HistoryLimiter.cleanupPass (hl : HistoryLimiter) (ns key value : String) (historyLimit : Int32)
    (getResourceFilterFn : Obj → Bool) : Prog (Except LimiterError Unit) :=
  list ns key value fun
    | .error err => ret (.error (.store err))
    | .ok resources => hl.cleanupListed historyLimit getResourceFilterFn resources

/-- `labelKey := getResourceNameLabelKey(resource, hl.resourceFn.GetDefaultLabelKey())`. -/
def HistoryLimiter.labelKey (hl : HistoryLimiter) (resource : Obj) : String :=
  hl.getResourceNameLabelKey resource hl.GetDefaultLabelKey

def HistoryLimiter.resourceName (hl : HistoryLimiter) (resource : Obj) : String :=
  hl.getResourceName resource (hl.labelKey resource)

def HistoryLimiter.doResourceCleanup (hl : HistoryLimiter) (resource : Obj)
    (getHistoryLimitFn : String → String → SelectorSpec → Option Int32)
    (getResourceFilterFn : Obj → Bool) : Prog (Except LimiterError Unit) :=
  match getHistoryLimitFn resource.ns (hl.resourceName resource) (getResourceSelectors resource) with
  | none => ret (.ok ())
  | some historyLimit =>
    hl.cleanupPass resource.ns (hl.labelKey resource) (hl.resourceName resource) historyLimit
      getResourceFilterFn

def HistoryLimiter.doSuccessfulResourceCleanup (hl : HistoryLimiter) (resource : Obj) :
    Prog (Except LimiterError Unit) :=
  hl.doResourceCleanup resource hl.GetSuccessHistoryLimitCount isSuccessful

def HistoryLimiter.doFailedResourceCleanup (hl : HistoryLimiter) (resource : Obj) :
    Prog (Except LimiterError Unit) :=
  hl.doResourceCleanup resource hl.GetFailedHistoryLimitCount isFailed

/-- What a pass deletes when every `Delete` succeeds or is not found: the
excess oldest of the completed siblings that pass the filter, in sort order. -/
def HistoryLimiter.victims (hl : HistoryLimiter) (historyLimit : Int32)
    (getResourceFilterFn : Obj → Bool) (resources : List Obj) : List Obj :=
  let completedResources := completedOf getResourceFilterFn resources
  (hl.sortSlice.sort completedResources).take (resourcesToDelete completedResources historyLimit)

-- ---------------------------------------------------------------------------
-- The delete loop
-- ---------------------------------------------------------------------------

/-- One step of the loop: it deletes the next sibling, and either the answer is
tolerated and the loop goes on, or it is another error and the loop returns it. -/
theorem deleteLoop_cons_runs_iff {x : Obj} {xs : List Obj} {n : Nat} {es : List Event}
    {o : Outcome (Except LimiterError Unit)} :
    (deleteLoop (x :: xs) (n + 1)).Runs es o ↔ ∃ r es', es = .delete x.ns x.name r :: es' ∧
      ((Event.delete x.ns x.name r).Tolerated ∧ (deleteLoop xs n).Runs es' o ∨
        ∃ reason, r = .error (.other reason) ∧ es' = [] ∧
          o = .returned (.error (.failedToDelete x.ns x.name (.other reason)))) := by
  rw [deleteLoop, runs_delete_iff]
  refine exists_congr fun r => exists_congr fun es' => and_congr_right fun _ => ?_
  rcases r with (_ | reason) | ⟨⟩ <;> simp [Event.Tolerated, runs_ret_iff]

/-- With every `Delete` tolerated, the loop deletes the first `n` in order, and
panics exactly when `n` exceeds the length. -/
theorem deleteLoop_runs_tolerated {xs : List Obj} {n : Nat} {es : List Event}
    {o : Outcome (Except LimiterError Unit)} (h : (deleteLoop xs n).Runs es o)
    (ht : ∀ e ∈ es, e.Tolerated) :
    deletesOf es = (xs.take n).map Obj.key ∧
      o = if n ≤ xs.length then .returned (.ok ()) else .panicked indexOutOfRange := by
  induction xs generalizing n es with
  | nil =>
    cases n with
    | zero => obtain ⟨rfl, rfl⟩ := runs_ret_iff.mp h; simp
    | succ n => obtain ⟨rfl, rfl⟩ := runs_panic_iff.mp h; simp
  | cons x xs ih =>
    cases n with
    | zero => obtain ⟨rfl, rfl⟩ := runs_ret_iff.mp h; simp
    | succ n =>
      obtain ⟨r, es', rfl, ⟨-, h'⟩ | ⟨reason, rfl, -, -⟩⟩ := deleteLoop_cons_runs_iff.mp h
      · simpa [Obj.key] using ih h' fun e he => ht e (List.mem_cons_of_mem _ he)
      · exact (ht _ (List.mem_cons_self _ _)).elim

theorem deleteLoop_runs_bound {xs : List Obj} {n : Nat} {es : List Event}
    {o : Outcome (Except LimiterError Unit)} (h : (deleteLoop xs n).Runs es o) :
    (deletesOf es).length ≤ n ∧ (n ≤ xs.length → ∀ m, o ≠ .panicked m) := by
  induction xs generalizing n es with
  | nil =>
    cases n with
    | zero => obtain ⟨rfl, rfl⟩ := runs_ret_iff.mp h; simp
    | succ n => obtain ⟨rfl, rfl⟩ := runs_panic_iff.mp h; simp
  | cons x xs ih =>
    cases n with
    | zero => obtain ⟨rfl, rfl⟩ := runs_ret_iff.mp h; simp
    | succ n =>
      obtain ⟨r, es', rfl, ⟨-, h'⟩ | ⟨reason, rfl, rfl, rfl⟩⟩ := deleteLoop_cons_runs_iff.mp h
      · obtain ⟨hlen, hpanic⟩ := ih h'
        exact ⟨by simpa using hlen, fun hn => hpanic (by simpa using hn)⟩
      · simp

theorem deleteLoop_runs_exists (xs : List Obj) (n : Nat) :
    ∃ es o, (deleteLoop xs n).Runs es o ∧ ∀ e ∈ es, e.Tolerated := by
  induction xs generalizing n with
  | nil =>
    cases n
    · exact ⟨[], _, runs_ret_iff.mpr ⟨rfl, rfl⟩, by simp⟩
    · exact ⟨[], _, runs_panic_iff.mpr ⟨rfl, rfl⟩, by simp⟩
  | cons x xs ih =>
    cases n with
    | zero => exact ⟨[], _, runs_ret_iff.mpr ⟨rfl, rfl⟩, by simp⟩
    | succ n =>
      obtain ⟨es, o, h, ht⟩ := ih n
      refine ⟨.delete x.ns x.name (.ok ()) :: es, o, runs_delete_iff.mpr ⟨_, _, rfl, h⟩, ?_⟩
      rintro e (_ | ⟨_, he⟩)
      · exact trivial
      · exact ht e he

theorem deleteLoop_calls (xs : List Obj) (n : Nat) :
    CallsSatisfy (fun e => ∃ x ∈ xs.take n, ∃ r, e = .delete x.ns x.name r) (deleteLoop xs n) := by
  induction xs generalizing n with
  | nil => cases n <;> simp only [deleteLoop] <;> first | exact .ret _ | exact .panic _
  | cons x xs ih =>
    cases n with
    | zero => exact .ret _
    | succ n =>
      have hrest : CallsSatisfy (fun e => ∃ y ∈ (x :: xs).take (n + 1), ∃ r, e = .delete y.ns y.name r)
          (deleteLoop xs n) :=
        (ih n).mono fun e ⟨y, hy, r, he⟩ => ⟨y, List.mem_cons_of_mem _ hy, r, he⟩
      refine .delete (fun r => ⟨x, List.mem_cons_self _ _, r, rfl⟩) fun r => ?_
      rcases r with (_ | _) | ⟨⟩
      · exact hrest
      · exact .ret _
      · exact hrest

-- ---------------------------------------------------------------------------
-- One pass over a listing
-- ---------------------------------------------------------------------------

section Listed

variable (hl : HistoryLimiter) (historyLimit : Int32) (getResourceFilterFn : Obj → Bool)

theorem resourcesToDelete_le_length (completedResources : List Obj) (hL : 0 ≤ historyLimit.toInt) :
    resourcesToDelete completedResources historyLimit ≤ completedResources.length := by
  unfold resourcesToDelete; omega

theorem resourcesToDelete_eq_zero {completedResources : List Obj}
    (h : (completedResources.length : Int) ≤ historyLimit.toInt) :
    resourcesToDelete completedResources historyLimit = 0 := by
  unfold resourcesToDelete; omega

theorem cleanupListed_runs_tolerated (hL : 0 ≤ historyLimit.toInt) {resources : List Obj}
    {es : List Event} {o : Outcome (Except LimiterError Unit)}
    (h : (hl.cleanupListed historyLimit getResourceFilterFn resources).Runs es o)
    (ht : ∀ e ∈ es, e.Tolerated) :
    deletesOf es = (hl.victims historyLimit getResourceFilterFn resources).map Obj.key ∧
      o = .returned (.ok ()) := by
  simp only [HistoryLimiter.cleanupListed] at h
  simp only [HistoryLimiter.victims]
  split_ifs at h with hle
  · obtain ⟨rfl, rfl⟩ := runs_ret_iff.mp h
    simp [resourcesToDelete_eq_zero _ hle]
  · obtain ⟨hd, ho⟩ := deleteLoop_runs_tolerated h ht
    refine ⟨hd, ho.trans (if_pos ?_)⟩
    rw [(hl.sortSlice.perm _).length_eq]
    exact resourcesToDelete_le_length _ _ hL

theorem cleanupListed_runs_bound {resources : List Obj} {es : List Event}
    {o : Outcome (Except LimiterError Unit)}
    (h : (hl.cleanupListed historyLimit getResourceFilterFn resources).Runs es o) :
    (deletesOf es).length ≤
        resourcesToDelete (completedOf getResourceFilterFn resources) historyLimit ∧
      (0 ≤ historyLimit.toInt → ∀ m, o ≠ .panicked m) := by
  simp only [HistoryLimiter.cleanupListed] at h
  split_ifs at h with hle
  · obtain ⟨rfl, rfl⟩ := runs_ret_iff.mp h
    simp
  · obtain ⟨hlen, hpanic⟩ := deleteLoop_runs_bound h
    refine ⟨hlen, fun hL => hpanic ?_⟩
    rw [(hl.sortSlice.perm _).length_eq]
    exact resourcesToDelete_le_length _ _ hL

theorem cleanupListed_runs_exists (resources : List Obj) :
    ∃ es o, (hl.cleanupListed historyLimit getResourceFilterFn resources).Runs es o ∧
      ∀ e ∈ es, e.Tolerated := by
  simp only [HistoryLimiter.cleanupListed]
  split_ifs
  · exact ⟨[], _, runs_ret_iff.mpr ⟨rfl, rfl⟩, by simp⟩
  · exact deleteLoop_runs_exists _ _

theorem victims_length (hL : 0 ≤ historyLimit.toInt) (resources : List Obj) :
    (hl.victims historyLimit getResourceFilterFn resources).length =
      (completedOf getResourceFilterFn resources).length - historyLimit.toInt.toNat := by
  unfold HistoryLimiter.victims resourcesToDelete
  rw [List.length_take, (hl.sortSlice.perm _).length_eq]
  omega

theorem mem_completedOf_of_mem_victims {resources : List Obj} {v : Obj}
    (hv : v ∈ hl.victims historyLimit getResourceFilterFn resources) :
    v ∈ completedOf getResourceFilterFn resources :=
  (hl.sortSlice.perm _).subset (List.mem_of_mem_take hv)

theorem sort_completedOf_keys_nodup {resources : List Obj} (hnodup : (resources.map Obj.key).Nodup) :
    ((hl.sortSlice.sort (completedOf getResourceFilterFn resources)).map Obj.key).Nodup :=
  (((hl.sortSlice.perm _).map _).nodup_iff).mpr
    ((List.Sublist.map _ (List.filter_sublist _)).nodup hnodup)

theorem victims_keys_nodup {resources : List Obj} (hnodup : (resources.map Obj.key).Nodup) :
    ((hl.victims historyLimit getResourceFilterFn resources).map Obj.key).Nodup :=
  (List.Sublist.map _ (List.take_sublist _ _)).nodup (sort_completedOf_keys_nodup hl getResourceFilterFn hnodup)

theorem victims_not_after_kept {resources : List Obj} {v w : Obj}
    (hv : v ∈ hl.victims historyLimit getResourceFilterFn resources)
    (hw : w ∈ completedOf getResourceFilterFn resources)
    (hwv : w ∉ hl.victims historyLimit getResourceFilterFn resources) :
    v.creationTimestamp ≤ w.creationTimestamp := by
  unfold HistoryLimiter.victims at hv hwv
  have hw' := (hl.sortSlice.perm _).symm.subset hw
  rw [← List.take_append_drop (resourcesToDelete (completedOf getResourceFilterFn resources) historyLimit)
    (hl.sortSlice.sort _)] at hw'
  rcases List.mem_append.mp hw' with h | h
  · exact absurd h hwv
  · exact (hl.sortSlice.sorted _).rel_of_mem_take_of_mem_drop hv h

/-- Each sibling a pass deletes has, among the completed siblings it listed, at
least `historyLimit` others created no earlier: the ones it keeps. -/
theorem cleanupListed_calls {resources : List Obj}
    (hnodup : (resources.map Obj.key).Nodup) :
    CallsSatisfy (fun e => ∃ v ∈ completedOf getResourceFilterFn resources,
        ∃ K, K ⊆ completedOf getResourceFilterFn resources ∧ historyLimit.toInt.toNat ≤ K.length ∧
          (K.map Obj.key).Nodup ∧ (∀ w ∈ K, w.key ≠ v.key ∧ v.creationTimestamp ≤ w.creationTimestamp) ∧
          ∃ r, e = .delete v.ns v.name r)
      (hl.cleanupListed historyLimit getResourceFilterFn resources) := by
  simp only [HistoryLimiter.cleanupListed]
  split
  · exact .ret _
  rename_i hgt
  set C := completedOf getResourceFilterFn resources
  set n := resourcesToDelete C historyLimit
  set S := hl.sortSlice.sort C
  have hkeys : (S.map Obj.key).Nodup := sort_completedOf_keys_nodup hl getResourceFilterFn hnodup
  rw [← List.take_append_drop n S, List.map_append, List.nodup_append] at hkeys
  refine (deleteLoop_calls S n).mono ?_
  rintro e ⟨v, hv, r, he⟩
  have hlen : historyLimit.toInt.toNat ≤ (S.drop n).length := by
    rw [List.length_drop, (hl.sortSlice.perm C).length_eq]
    simp only [n, resourcesToDelete]
    omega
  refine ⟨v, (hl.sortSlice.perm C).subset (List.mem_of_mem_take hv), S.drop n,
    fun w hw => (hl.sortSlice.perm C).subset (List.mem_of_mem_drop hw), hlen,
    hkeys.2.1, fun w hw => ⟨fun hkey => ?_, (hl.sortSlice.sorted C).rel_of_mem_take_of_mem_drop hv hw⟩, r, he⟩
  exact hkeys.2.2 (List.mem_map_of_mem _ hv) (hkey ▸ List.mem_map_of_mem _ hw)

/-- The siblings of `resources` a pass that deleted `victims` leaves behind. -/
def survivors (victims resources : List Obj) : List Obj :=
  resources.filter fun r => r.key ∉ victims.map Obj.key

theorem completedOf_survivors (victims resources : List Obj) :
    completedOf getResourceFilterFn (survivors victims resources) =
      (completedOf getResourceFilterFn resources).filter fun r => r.key ∉ victims.map Obj.key := by
  simp only [completedOf, survivors, List.filter_filter, Bool.and_comm]

theorem filter_not_mem_take_keys {l : List Obj} (hnodup : (l.map Obj.key).Nodup) (j : Nat) :
    (l.filter fun r => r.key ∉ (l.take j).map Obj.key) = l.drop j := by
  have hsplit : l.take j ++ l.drop j = l := List.take_append_drop j l
  rw [← hsplit, List.map_append, List.nodup_append] at hnodup
  conv_lhs => rw [← hsplit]
  rw [List.filter_append, List.filter_eq_nil_iff.mpr, List.filter_eq_self.mpr]
  · rfl
  · intro a ha
    simpa using fun hmem => hnodup.2.2 hmem (List.mem_map_of_mem _ ha)
  · intro a ha
    simpa using List.mem_map_of_mem _ ha

theorem completedOf_survivors_perm {resources : List Obj} (hnodup : (resources.map Obj.key).Nodup) (j : Nat) :
    (completedOf getResourceFilterFn
      (survivors ((hl.sortSlice.sort (completedOf getResourceFilterFn resources)).take j) resources)).Perm
      ((hl.sortSlice.sort (completedOf getResourceFilterFn resources)).drop j) := by
  rw [completedOf_survivors, ← filter_not_mem_take_keys (sort_completedOf_keys_nodup hl getResourceFilterFn hnodup) j]
  exact ((hl.sortSlice.perm _).filter _).symm

theorem completedOf_survivors_length (hL : 0 ≤ historyLimit.toInt) {resources : List Obj}
    (hnodup : (resources.map Obj.key).Nodup) :
    (completedOf getResourceFilterFn
      (survivors (hl.victims historyLimit getResourceFilterFn resources) resources)).length ≤
      historyLimit.toInt.toNat := by
  have hlen := (completedOf_survivors_perm hl getResourceFilterFn hnodup
    (resourcesToDelete (completedOf getResourceFilterFn resources) historyLimit)).length_eq
  unfold HistoryLimiter.victims
  rw [hlen, List.length_drop, (hl.sortSlice.perm _).length_eq, resourcesToDelete]
  omega

theorem cleanupListed_survivors_runs (hL : 0 ≤ historyLimit.toInt) {resources resources' : List Obj}
    (hnodup : (resources.map Obj.key).Nodup)
    (hperm : resources'.Perm (survivors (hl.victims historyLimit getResourceFilterFn resources) resources))
    {es : List Event} {o : Outcome (Except LimiterError Unit)}
    (h : (hl.cleanupListed historyLimit getResourceFilterFn resources').Runs es o) :
    es = [] ∧ o = .returned (.ok ()) := by
  simp only [HistoryLimiter.cleanupListed] at h
  rw [if_pos] at h
  · exact runs_ret_iff.mp h
  · have hcount := completedOf_survivors_length hl historyLimit getResourceFilterFn hL hnodup
    have hlen : (completedOf getResourceFilterFn resources').length =
        (completedOf getResourceFilterFn
          (survivors (hl.victims historyLimit getResourceFilterFn resources) resources)).length :=
      (hperm.filter _).length_eq
    omega

end Listed

theorem doResourceCleanup_calls_noPatch (hl : HistoryLimiter) (resource : Obj)
    (getHistoryLimitFn : String → String → SelectorSpec → Option Int32) (getResourceFilterFn : Obj → Bool) :
    CallsSatisfy (fun e => e.isPatch = false)
      (hl.doResourceCleanup resource getHistoryLimitFn getResourceFilterFn) := by
  unfold HistoryLimiter.doResourceCleanup
  split
  · exact .ret _
  · refine .list (fun _ => rfl) fun r => ?_
    rcases r with _ | resources
    · exact .ret _
    · simp only [HistoryLimiter.cleanupListed]
      exact .ite (.ret _) ((deleteLoop_calls _ _).mono fun e he => by obtain ⟨_, _, _, rfl⟩ := he; rfl)

/-- A limiter that resolves the same limits for every grouping, and groups runs
by their `tekton.dev/pipeline` label. -/
def fixedLimiter (successfulHistoryLimit failedHistoryLimit : Option Int32) (sortSlice : SortSlice) :
    HistoryLimiter where
  GetDefaultLabelKey := "tekton.dev/pipeline"
  GetSuccessHistoryLimitCount _ _ _ := successfulHistoryLimit
  GetFailedHistoryLimitCount _ _ _ := failedHistoryLimit
  getResourceNameLabelKey _ labelKey := labelKey
  getResourceName resource labelKey := (resource.labels.get? labelKey).getD resource.name
  AnnotationHistoryLimitCheckProcessed := "pruner.tekton.dev/history-limit-processed"
  sortSlice := sortSlice

def buildRun (name : String) (creationTimestamp : Int) (status : RunStatus) : Obj where
  ns := "ns"
  name := name
  creationTimestamp := creationTimestamp
  status := status
  labels := [("tekton.dev/pipeline", "build")]
  annotations := []

-- ---------------------------------------------------------------------------
-- A whole pass
-- ---------------------------------------------------------------------------

section Pass

variable (hl : HistoryLimiter) (resource : Obj)
  (getHistoryLimitFn : String → String → SelectorSpec → Option Int32) (getResourceFilterFn : Obj → Bool)

def HistoryLimiter.listed (resources : List Obj) : Event :=
  .list resource.ns (hl.labelKey resource) (hl.resourceName resource) (.ok resources)

theorem doResourceCleanup_of_some {historyLimit : Int32}
    (h : getHistoryLimitFn resource.ns (hl.resourceName resource) (getResourceSelectors resource) =
      some historyLimit) :
    hl.doResourceCleanup resource getHistoryLimitFn getResourceFilterFn =
      hl.cleanupPass resource.ns (hl.labelKey resource) (hl.resourceName resource) historyLimit
        getResourceFilterFn := by
  simp [HistoryLimiter.doResourceCleanup, h]

theorem cleanupPass_runs_listed {ns key value : String} {historyLimit : Int32} {resources : List Obj}
    {es : List Event} {o : Outcome (Except LimiterError Unit)} :
    (hl.cleanupPass ns key value historyLimit getResourceFilterFn).Runs
        (.list ns key value (.ok resources) :: es) o ↔
      (hl.cleanupListed historyLimit getResourceFilterFn resources).Runs es o := by
  simp [HistoryLimiter.cleanupPass, Runs, feed_cons, next]

/-- With a limit of zero or more and every `Delete` answered with success or
not-found, a pass deletes each of the excess oldest completed siblings that pass
the filter exactly once, and nothing else; with no limit it makes no call; and a
second pass over the siblings left deletes nothing. -/
theorem doResourceCleanup_deletes_excess_oldest :
    (getHistoryLimitFn resource.ns (hl.resourceName resource) (getResourceSelectors resource) = none →
      ∀ es o, (hl.doResourceCleanup resource getHistoryLimitFn getResourceFilterFn).Runs es o →
        es = [] ∧ o = .returned (.ok ())) ∧
    ∀ historyLimit, getHistoryLimitFn resource.ns (hl.resourceName resource)
        (getResourceSelectors resource) = some historyLimit → 0 ≤ historyLimit.toInt →
    ∀ resources : List Obj, (resources.map Obj.key).Nodup →
      (∃ es o, (hl.doResourceCleanup resource getHistoryLimitFn getResourceFilterFn).Runs
        (hl.listed resource resources :: es) o ∧ ∀ e ∈ es, e.Tolerated) ∧
      (∀ es o, (hl.doResourceCleanup resource getHistoryLimitFn getResourceFilterFn).Runs
          (hl.listed resource resources :: es) o → (∀ e ∈ es, e.Tolerated) →
        deletesOf es = (hl.victims historyLimit getResourceFilterFn resources).map Obj.key ∧
          o = .returned (.ok ())) ∧
      (hl.victims historyLimit getResourceFilterFn resources).length =
        resources.countP (fun r => isCompleted r && getResourceFilterFn r) - historyLimit.toInt.toNat ∧
      ((hl.victims historyLimit getResourceFilterFn resources).map Obj.key).Nodup ∧
      (∀ v ∈ hl.victims historyLimit getResourceFilterFn resources,
        v ∈ resources ∧ isCompleted v = true ∧ getResourceFilterFn v = true) ∧
      (∀ v ∈ hl.victims historyLimit getResourceFilterFn resources,
        ∀ w ∈ resources, isCompleted w = true → getResourceFilterFn w = true →
          w ∉ hl.victims historyLimit getResourceFilterFn resources →
            v.creationTimestamp ≤ w.creationTimestamp) ∧
      (∀ resources' : List Obj,
        resources'.Perm (survivors (hl.victims historyLimit getResourceFilterFn resources) resources) →
        ∀ es o, (hl.doResourceCleanup resource getHistoryLimitFn getResourceFilterFn).Runs
          (hl.listed resource resources' :: es) o → es = [] ∧ o = .returned (.ok ())) := by
  refine ⟨fun hnone es o h => ?_, fun historyLimit hsome hL resources hnodup => ?_⟩
  · simp only [HistoryLimiter.doResourceCleanup, hnone] at h
    exact runs_ret_iff.mp h
  · simp only [doResourceCleanup_of_some hl resource getHistoryLimitFn getResourceFilterFn hsome,
      HistoryLimiter.listed, cleanupPass_runs_listed]
    exact ⟨cleanupListed_runs_exists hl historyLimit getResourceFilterFn resources,
      fun es o h ht => cleanupListed_runs_tolerated hl historyLimit getResourceFilterFn hL h ht,
      by rw [victims_length hl historyLimit getResourceFilterFn hL resources, completedOf,
        ← List.countP_eq_length_filter],
      victims_keys_nodup hl historyLimit getResourceFilterFn hnodup,
      fun v hv => by
        simpa [completedOf, and_assoc] using mem_completedOf_of_mem_victims hl historyLimit getResourceFilterFn hv,
      fun v hv w hw hc hf hwv => victims_not_after_kept hl historyLimit getResourceFilterFn hv
        (List.mem_filter.mpr ⟨hw, by simp [hc, hf]⟩) hwv,
      fun resources' hperm es o h =>
        cleanupListed_survivors_runs hl historyLimit getResourceFilterFn hL hnodup hperm h⟩

/-- For every limit a pass makes at most `max(0, N - L)` deletes, and for a limit
of zero or more it never indexes past the end of `completedResources`. -/
theorem doResourceCleanup_delete_count_bounded {historyLimit : Int32}
    (hsome : getHistoryLimitFn resource.ns (hl.resourceName resource) (getResourceSelectors resource) =
      some historyLimit)
    {resources : List Obj} {es : List Event} {o : Outcome (Except LimiterError Unit)}
    (h : (hl.doResourceCleanup resource getHistoryLimitFn getResourceFilterFn).Runs
      (hl.listed resource resources :: es) o) :
    (deletesOf es).length ≤
        ((completedOf getResourceFilterFn resources).length - historyLimit.toInt).toNat ∧
      (0 ≤ historyLimit.toInt → ∀ m, o ≠ .panicked m) := by
  rw [doResourceCleanup_of_some hl resource getHistoryLimitFn getResourceFilterFn hsome,
    HistoryLimiter.listed, cleanupPass_runs_listed] at h
  exact cleanupListed_runs_bound hl historyLimit getResourceFilterFn h

end Pass

theorem delete_count_bounded_at_limit_one :
    let hl := fixedLimiter (some 1) none insertionSortSlice
    let older := buildRun "build-1" 100 .succeeded
    let newer := buildRun "build-2" 200 .succeeded
    hl.GetSuccessHistoryLimitCount older.ns (hl.resourceName older) (getResourceSelectors older) =
        some 1 ∧
      (hl.doSuccessfulResourceCleanup older).Runs
        [hl.listed older [newer, older], .delete "ns" "build-1" (.ok ())] (.returned (.ok ())) ∧
      (deletesOf [.delete "ns" "build-1" (.ok ())]).length ≤
          ((completedOf isSuccessful [newer, older]).length - (1 : Int32).toInt).toNat ∧
        (0 ≤ (1 : Int32).toInt → ∀ m, (.returned (.ok ()) : Outcome (Except LimiterError Unit)) ≠ .panicked m) :=
  have hrun : ((fixedLimiter (some 1) none insertionSortSlice).doSuccessfulResourceCleanup
      (buildRun "build-1" 100 .succeeded)).Runs
      [(fixedLimiter (some 1) none insertionSortSlice).listed (buildRun "build-1" 100 .succeeded)
        [buildRun "build-2" 200 .succeeded, buildRun "build-1" 100 .succeeded],
       .delete "ns" "build-1" (.ok ())] (.returned (.ok ())) := rfl
  ⟨rfl, hrun, doResourceCleanup_delete_count_bounded _ _ _ _ rfl hrun⟩

/-- With a limit of `-1` and one completed sibling, the pass deletes it, then
reads `completedResources[1]` and panics. -/
theorem negative_limit_indexes_past_end :
    let hl := fixedLimiter (some (-1)) none insertionSortSlice
    let run := buildRun "build-1" 100 .succeeded
    (hl.doSuccessfulResourceCleanup run).Runs
      [hl.listed run [run], .delete "ns" "build-1" (.ok ())] (.panicked indexOutOfRange) :=
  rfl

end TektonPruner.History
