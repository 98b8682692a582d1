import TektonPruner.History.Cleanup

/-!
# Which siblings a pass deletes

`sort.Slice` orders the completed siblings by `Before` on creation times and
breaks no ties. When their creation times are pairwise distinct there is one
sorted order, which every algorithm with the contract of `sort.Slice` reaches
from every listing order: the victims are then determined by the siblings
listed. When two siblings created in the same second meet at the cut, insertion
sort (what `sort.Slice` runs on a slice of at most 12 elements) keeps them in
listing order, and the listing order decides which of them is deleted.

A pass whose `Delete` of the `k`-th victim fails with an error other than
not-found stops there and returns the error. Over siblings with distinct
creation times, a second pass with the same limit over the siblings still
present deletes exactly the victims of the first pass it did not reach.
-/

namespace TektonPruner.History

open Prog

def Before (a b : Obj) : Prop := a.creationTimestamp < b.creationTimestamp

instance : IsAntisymm Obj Before := ⟨fun _ _ hab hba => absurd (lt_trans hab hba) (lt_irrefl _)⟩

def DistinctTimes (l : List Obj) : Prop :=
  l.Pairwise fun a b => a.creationTimestamp ≠ b.creationTimestamp

instance (l : List Obj) : Decidable (DistinctTimes l) := inferInstanceAs (Decidable (List.Pairwise _ l))

theorem DistinctTimes.perm {l l' : List Obj} (hp : l.Perm l') (h : DistinctTimes l) : DistinctTimes l' :=
  (hp.pairwise_iff fun h => Ne.symm h).mp h

theorem DistinctTimes.of_sorted {l : List Obj} (h : l.Sorted Before) : DistinctTimes l :=
  h.imp fun h => ne_of_lt h

section SortSlice

variable (ss : SortSlice) {l l' : List Obj}

theorem SortSlice.sorted_before (hd : DistinctTimes l) : (ss.sort l).Sorted Before :=
  ((ss.sorted l).and (hd.perm (ss.perm l).symm)).imp fun ⟨hle, hne⟩ => lt_of_le_of_ne hle hne

/-- Over siblings with pairwise distinct creation times, every algorithm with
the contract of `sort.Slice` gives the one order sorted by `Before`. -/
theorem SortSlice.sort_eq_of_perm_sorted (hp : l.Perm l') (hs : l'.Sorted Before) : ss.sort l = l' :=
  List.eq_of_perm_of_sorted ((ss.perm l).trans hp)
    (ss.sorted_before ((DistinctTimes.of_sorted hs).perm hp.symm)) hs

end SortSlice

-- ---------------------------------------------------------------------------
-- The listing order
-- ---------------------------------------------------------------------------

section Order

variable (hl : HistoryLimiter) (historyLimit : Int32) (getResourceFilterFn : Obj → Bool)

/-- With pairwise distinct creation times among the completed siblings that pass
the filter, two listings of the same siblings have the same victims. -/
theorem victims_eq_of_perm {resources resources' : List Obj} (hp : resources.Perm resources')
    (hd : DistinctTimes (completedOf getResourceFilterFn resources)) :
    hl.victims historyLimit getResourceFilterFn resources =
      hl.victims historyLimit getResourceFilterFn resources' := by
  have hc : (completedOf getResourceFilterFn resources').Perm (completedOf getResourceFilterFn resources) :=
    hp.symm.filter _
  have hsort := hl.sortSlice.sort_eq_of_perm_sorted (hc.trans (hl.sortSlice.perm _).symm)
    (hl.sortSlice.sorted_before hd)
  simp only [HistoryLimiter.victims, resourcesToDelete, hc.length_eq, hsort]

end Order

theorem distinct_times_same_victims :
    [buildRun "build-a" 100 .succeeded, buildRun "build-b" 200 .succeeded, buildRun "build-c" 300 .succeeded].Perm
      [buildRun "build-c" 300 .succeeded, buildRun "build-a" 100 .succeeded, buildRun "build-b" 200 .succeeded] ∧
    DistinctTimes (completedOf isSuccessful
      [buildRun "build-a" 100 .succeeded, buildRun "build-b" 200 .succeeded, buildRun "build-c" 300 .succeeded]) ∧
    (fixedLimiter (some 1) none insertionSortSlice).victims 1 isSuccessful
        [buildRun "build-a" 100 .succeeded, buildRun "build-b" 200 .succeeded, buildRun "build-c" 300 .succeeded] =
      (fixedLimiter (some 1) none insertionSortSlice).victims 1 isSuccessful
        [buildRun "build-c" 300 .succeeded, buildRun "build-a" 100 .succeeded, buildRun "build-b" 200 .succeeded] :=
  have hp : [buildRun "build-a" 100 .succeeded, buildRun "build-b" 200 .succeeded,
      buildRun "build-c" 300 .succeeded].Perm
      [buildRun "build-c" 300 .succeeded, buildRun "build-a" 100 .succeeded, buildRun "build-b" 200 .succeeded] := by
    decide
  have hd : DistinctTimes (completedOf isSuccessful
      [buildRun "build-a" 100 .succeeded, buildRun "build-b" 200 .succeeded, buildRun "build-c" 300 .succeeded]) := by
    decide
  ⟨hp, hd, victims_eq_of_perm (fixedLimiter (some 1) none insertionSortSlice) 1 isSuccessful hp hd⟩

/-- Two completed runs created in the same second, and a third: with a limit of
2, the listing order decides which of the two is deleted. -/
theorem listing_order_decides_victim :
    [buildRun "build-a" 100 .succeeded, buildRun "build-b" 100 .succeeded, buildRun "build-c" 200 .succeeded].Perm
      [buildRun "build-b" 100 .succeeded, buildRun "build-a" 100 .succeeded, buildRun "build-c" 200 .succeeded] ∧
    ((fixedLimiter (some 2) none insertionSortSlice).doSuccessfulResourceCleanup
        (buildRun "build-c" 200 .succeeded)).Runs
      [(fixedLimiter (some 2) none insertionSortSlice).listed (buildRun "build-c" 200 .succeeded)
        [buildRun "build-a" 100 .succeeded, buildRun "build-b" 100 .succeeded, buildRun "build-c" 200 .succeeded],
       .delete "ns" "build-a" (.ok ())] (.returned (.ok ())) ∧
    ((fixedLimiter (some 2) none insertionSortSlice).doSuccessfulResourceCleanup
        (buildRun "build-c" 200 .succeeded)).Runs
      [(fixedLimiter (some 2) none insertionSortSlice).listed (buildRun "build-c" 200 .succeeded)
        [buildRun "build-b" 100 .succeeded, buildRun "build-a" 100 .succeeded, buildRun "build-c" 200 .succeeded],
       .delete "ns" "build-b" (.ok ())] (.returned (.ok ())) :=
  ⟨by decide, rfl, rfl⟩

-- ---------------------------------------------------------------------------
-- An interrupted pass and its retry
-- ---------------------------------------------------------------------------

theorem deleteLoop_runs_interrupted {xs : List Obj} {n : Nat} {pre post : List Event} {e : Event}
    {o : Outcome (Except LimiterError Unit)} (h : (deleteLoop xs n).Runs (pre ++ e :: post) o)
    (hpre : ∀ x ∈ pre, x.Tolerated) (he : ¬ e.Tolerated) :
    post = [] ∧ pre.length < n ∧ deletesOf pre = (xs.take pre.length).map Obj.key ∧
      ∃ v reason, xs[pre.length]? = some v ∧ e = .delete v.ns v.name (.error (.other reason)) ∧
        o = .returned (.error (.failedToDelete v.ns v.name (.other reason))) := by
  have hne : pre ++ e :: post ≠ [] := by simp
  induction xs generalizing n pre with
  | nil =>
    cases n with
    | zero => exact absurd (runs_ret_iff.mp h).1 hne
    | succ n => exact absurd (runs_panic_iff.mp h).1 hne
  | cons x xs ih =>
    cases n with
    | zero => exact absurd (runs_ret_iff.mp h).1 hne
    | succ n =>
      obtain ⟨r, es, hes, ⟨hr, h'⟩ | ⟨reason, rfl, rfl, rfl⟩⟩ := deleteLoop_cons_runs_iff.mp h
      · cases pre with
        | nil => exact absurd ((List.cons.inj hes).1 ▸ hr) he
        | cons p pre =>
          obtain ⟨rfl, rfl⟩ := List.cons.inj hes
          obtain ⟨hpost, hlt, hdel, v, reason, hv, rest⟩ :=
            ih h' (fun x hx => hpre x (List.mem_cons_of_mem _ hx)) (by simp)
          exact ⟨hpost, Nat.succ_lt_succ hlt, by simp [hdel, Obj.key], v, reason, by simpa using hv, rest⟩
      · cases pre with
        | nil =>
          obtain ⟨rfl, rfl⟩ := List.cons.inj hes
          exact ⟨rfl, Nat.succ_pos n, rfl, x, reason, by simp, rfl, rfl⟩
        | cons p pre => simp at hes

section Retry

variable (hl : HistoryLimiter) (historyLimit : Int32) (getResourceFilterFn : Obj → Bool)

theorem cleanupListed_runs_interrupted {resources : List Obj} {pre post : List Event} {e : Event}
    {o : Outcome (Except LimiterError Unit)}
    (h : (hl.cleanupListed historyLimit getResourceFilterFn resources).Runs (pre ++ e :: post) o)
    (hpre : ∀ x ∈ pre, x.Tolerated) (he : ¬ e.Tolerated) :
    post = [] ∧ pre.length < (hl.victims historyLimit getResourceFilterFn resources).length ∧
      deletesOf pre = ((hl.victims historyLimit getResourceFilterFn resources).take pre.length).map Obj.key ∧
      ∃ v reason, (hl.victims historyLimit getResourceFilterFn resources)[pre.length]? = some v ∧
        e = .delete v.ns v.name (.error (.other reason)) ∧
        o = .returned (.error (.failedToDelete v.ns v.name (.other reason))) := by
  simp only [HistoryLimiter.cleanupListed] at h
  split_ifs at h
  · exact absurd (runs_ret_iff.mp h).1 (by simp)
  · obtain ⟨hpost, hlt, hdel, v, reason, hv, rfl, rfl⟩ := deleteLoop_runs_interrupted h hpre he
    have hlen : pre.length < (hl.sortSlice.sort (completedOf getResourceFilterFn resources)).length :=
      (List.getElem?_eq_some_iff.mp hv).1
    refine ⟨hpost, ?_, ?_, v, reason, ?_, rfl, rfl⟩
    · simp only [HistoryLimiter.victims, List.length_take]
      omega
    · rw [hdel, HistoryLimiter.victims, List.take_take, Nat.min_eq_left hlt.le]
    · rw [HistoryLimiter.victims, List.getElem?_take_of_lt hlt, hv]

/-- Over siblings with distinct names and creation times, a pass over the
siblings left once the first `j` victims are gone has the remaining victims. -/
theorem victims_survivors (hL : 0 ≤ historyLimit.toInt) {resources : List Obj}
    (hnodup : (resources.map Obj.key).Nodup) (hd : DistinctTimes (completedOf getResourceFilterFn resources))
    {j : Nat} (hj : j ≤ (hl.victims historyLimit getResourceFilterFn resources).length) {resources' : List Obj}
    (hperm : resources'.Perm (survivors ((hl.victims historyLimit getResourceFilterFn resources).take j) resources)) :
    hl.victims historyLimit getResourceFilterFn resources' =
      (hl.victims historyLimit getResourceFilterFn resources).drop j := by
  simp only [HistoryLimiter.victims, List.length_take] at hj hperm ⊢
  set C := completedOf getResourceFilterFn resources
  set S := hl.sortSlice.sort C
  have hjn : j ≤ resourcesToDelete C historyLimit := by omega
  have htake : (S.take (resourcesToDelete C historyLimit)).take j = S.take j := by
    rw [List.take_take, Nat.min_eq_left hjn]
  have hleft : (completedOf getResourceFilterFn resources').Perm (S.drop j) := by
    rw [htake] at hperm
    exact (hperm.filter _).trans (completedOf_survivors_perm hl getResourceFilterFn hnodup j)
  have hsorted : (S.drop j).Sorted Before := (hl.sortSlice.sorted_before hd).sublist (List.drop_sublist j S)
  rw [hl.sortSlice.sort_eq_of_perm_sorted hleft hsorted, List.drop_take]
  have hlen : S.length = C.length := (hl.sortSlice.perm C).length_eq
  simp only [resourcesToDelete, hleft.length_eq, List.length_drop] at hjn hj ⊢
  congr 1
  omega

end Retry

/-- With a limit of zero or more, over siblings with distinct names whose
completed, filter-passing members have pairwise distinct creation times: a pass
whose `Delete`s are tolerated until the one at position `k` fails with another
error has deleted the first `k` victims in order, failed on the next, made no
call after it, and returned the error. A second pass with the same limit over
the siblings still present, whether or not the failed `Delete` took effect,
has as victims exactly those of the first it did not reach, and deletes them. -/
theorem interrupted_pass_retried (hl : HistoryLimiter) (resource : Obj)
    {getHistoryLimitFn : String → String → SelectorSpec → Option Int32} {getResourceFilterFn : Obj → Bool}
    {historyLimit : Int32}
    (hsome : getHistoryLimitFn resource.ns (hl.resourceName resource) (getResourceSelectors resource) =
      some historyLimit)
    (hL : 0 ≤ historyLimit.toInt) {resources : List Obj} (hnodup : (resources.map Obj.key).Nodup)
    (hd : DistinctTimes (completedOf getResourceFilterFn resources))
    {pre post : List Event} {e : Event} {o : Outcome (Except LimiterError Unit)}
    (h : (hl.doResourceCleanup resource getHistoryLimitFn getResourceFilterFn).Runs
      (hl.listed resource resources :: (pre ++ e :: post)) o)
    (hpre : ∀ x ∈ pre, x.Tolerated) (he : ¬ e.Tolerated) :
    post = [] ∧ pre.length < (hl.victims historyLimit getResourceFilterFn resources).length ∧
    deletesOf pre = ((hl.victims historyLimit getResourceFilterFn resources).take pre.length).map Obj.key ∧
    (∃ v reason, (hl.victims historyLimit getResourceFilterFn resources)[pre.length]? = some v ∧
      e = .delete v.ns v.name (.error (.other reason)) ∧
      o = .returned (.error (.failedToDelete v.ns v.name (.other reason)))) ∧
    ∀ j ∈ [pre.length, pre.length + 1], ∀ resources' : List Obj,
      resources'.Perm (survivors ((hl.victims historyLimit getResourceFilterFn resources).take j) resources) →
      hl.victims historyLimit getResourceFilterFn resources' =
          (hl.victims historyLimit getResourceFilterFn resources).drop j ∧
        ∀ es o', (hl.doResourceCleanup resource getHistoryLimitFn getResourceFilterFn).Runs
            (hl.listed resource resources' :: es) o' → (∀ x ∈ es, x.Tolerated) →
          deletesOf es = ((hl.victims historyLimit getResourceFilterFn resources).drop j).map Obj.key ∧
            o' = .returned (.ok ()) := by
  have hpass := doResourceCleanup_of_some hl resource getHistoryLimitFn getResourceFilterFn hsome
  rw [hpass, HistoryLimiter.listed, cleanupPass_runs_listed] at h
  obtain ⟨hpost, hlt, hdel, hv⟩ := cleanupListed_runs_interrupted hl historyLimit getResourceFilterFn h hpre he
  refine ⟨hpost, hlt, hdel, hv, fun j hj resources' hperm => ?_⟩
  have hjle : j ≤ (hl.victims historyLimit getResourceFilterFn resources).length := by
    simp only [List.mem_cons, List.mem_singleton, List.not_mem_nil, or_false] at hj
    omega
  have hvictims := victims_survivors hl historyLimit getResourceFilterFn hL hnodup hd hjle hperm
  refine ⟨hvictims, fun es o' h' ht => ?_⟩
  rw [hpass, HistoryLimiter.listed, cleanupPass_runs_listed] at h'
  rw [← hvictims]
  exact cleanupListed_runs_tolerated hl historyLimit getResourceFilterFn hL h' ht

/-- Three runs, a limit of 1: the `Delete` of the second victim fails and does
not take effect, and the retry over the two runs left deletes that one. -/
theorem failed_second_delete_retried :
    ((fixedLimiter (some 1) none insertionSortSlice).doSuccessfulResourceCleanup
        (buildRun "build-c" 300 .succeeded)).Runs
      [(fixedLimiter (some 1) none insertionSortSlice).listed (buildRun "build-c" 300 .succeeded)
        [buildRun "build-a" 100 .succeeded, buildRun "build-b" 200 .succeeded, buildRun "build-c" 300 .succeeded],
       .delete "ns" "build-a" (.ok ()), .delete "ns" "build-b" (.error (.other "conflict"))]
      (.returned (.error (.failedToDelete "ns" "build-b" (.other "conflict")))) ∧
    ∀ resources' : List Obj,
      resources'.Perm [buildRun "build-b" 200 .succeeded, buildRun "build-c" 300 .succeeded] →
      ∀ es o', ((fixedLimiter (some 1) none insertionSortSlice).doSuccessfulResourceCleanup
          (buildRun "build-c" 300 .succeeded)).Runs
          ((fixedLimiter (some 1) none insertionSortSlice).listed (buildRun "build-c" 300 .succeeded)
            resources' :: es) o' →
        (∀ x ∈ es, x.Tolerated) → deletesOf es = [("ns", "build-b")] ∧ o' = .returned (.ok ()) := by
  have hrun : ((fixedLimiter (some 1) none insertionSortSlice).doSuccessfulResourceCleanup
      (buildRun "build-c" 300 .succeeded)).Runs
      ((fixedLimiter (some 1) none insertionSortSlice).listed (buildRun "build-c" 300 .succeeded)
        [buildRun "build-a" 100 .succeeded, buildRun "build-b" 200 .succeeded, buildRun "build-c" 300 .succeeded] ::
       ([.delete "ns" "build-a" (.ok ())] ++ [.delete "ns" "build-b" (.error (.other "conflict"))]))
      (.returned (.error (.failedToDelete "ns" "build-b" (.other "conflict")))) := rfl
  obtain ⟨-, -, -, -, hretry⟩ := interrupted_pass_retried (fixedLimiter (some 1) none insertionSortSlice)
    (buildRun "build-c" 300 .succeeded) rfl (by decide) (by decide) (by decide)
    hrun (by simp [Event.Tolerated]) (by simp [Event.Tolerated])
  refine ⟨hrun, fun resources' hp es o' h ht => ?_⟩
  exact (hretry 1 (by simp) resources' (hp.trans (by decide)) |>.2) es o' h ht

end TektonPruner.History
