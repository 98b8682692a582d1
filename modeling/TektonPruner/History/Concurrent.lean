import TektonPruner.History.Cleanup
import TektonPruner.Store.Run

/-!
# Concurrent cleanup passes

Several cleanup passes for one grouping and status filter, all with one limit
`L`, run against one store in any interleaving. Each lists the store at its
own step, in any order, and deletes what that listing tells it to. The rest of
the world deletes no eligible sibling: it may create objects under new names,
patch objects (the processed marker, the lock) and complete runs, as long as an
object keeps its name's creation time.

A pass deletes a sibling only when its listing holds `L` other eligible
siblings created no earlier. So a sibling with fewer than `L` such siblings
among all that were ever stored is never deleted, by any pass in any
interleaving. When creation times are pairwise distinct, that keeps the latest
`min(L, C)` of the `C` siblings ever stored. With equal creation times, two
passes that listed the siblings in different orders can each delete a
different one of a tie, and fewer remain. A negative limit counts as `0` here:
such a pass deletes every completed sibling before it panics.
-/

namespace TektonPruner.History

open Prog

section Passes

variable (ns key value : String) (getResourceFilterFn : Obj → Bool)

/-- A sibling a pass over `ns` and `key=value` considers: listed, completed, and
passing the filter. -/
def eligible (o : Obj) : Bool :=
  (o.ns == ns && o.labels.get? key == some value) && (isCompleted o && getResourceFilterFn o)

/-- `v` has at least `n` other eligible siblings among `seen` created no earlier. -/
def Superseded (n : Nat) (seen : List Obj) (v : Obj) : Prop :=
  ∃ K : List Obj, n ≤ K.length ∧ (K.map Obj.key).Nodup ∧
    ∀ w ∈ K, w ∈ seen ∧ eligible ns key value getResourceFilterFn w = true ∧ w.key ≠ v.key ∧
      v.creationTimestamp ≤ w.creationTimestamp

/-- A call that deletes an eligible sibling superseded in `seen`. -/
def DeletesSuperseded (n : Nat) (seen : List Obj) (e : Event) : Prop :=
  ∃ v ∈ seen, eligible ns key value getResourceFilterFn v = true ∧
    Superseded ns key value getResourceFilterFn n seen v ∧ ∃ r, e = .delete v.ns v.name r

/-- What the rest of the world may do in one step: every eligible sibling stays,
under its name and eligible; every object stored afterwards continues an object
stored before, under its name and with its creation time, or has a name never
seen. -/
def KeepsSiblings (seen : List Obj) (s s' : Store) : Prop :=
  (∀ o ∈ s.objs, eligible ns key value getResourceFilterFn o = true →
    ∃ o' ∈ s'.objs, o'.key = o.key ∧ eligible ns key value getResourceFilterFn o' = true) ∧
  ∀ o' ∈ s'.objs, (∃ o ∈ s.objs, o.key = o'.key ∧ o.creationTimestamp = o'.creationTimestamp) ∨
    o'.key ∉ seen.map Obj.key

instance (seen : List Obj) (s s' : Store) :
    Decidable (KeepsSiblings ns key value getResourceFilterFn seen s s') :=
  show Decidable (_ ∧ _) from inferInstance

variable {ns key value getResourceFilterFn}

theorem mem_completedOf_selected {s : Store} {o : Obj} :
    o ∈ completedOf getResourceFilterFn (s.selected ns key value) ↔
      o ∈ s.objs ∧ eligible ns key value getResourceFilterFn o = true := by
  simp only [completedOf, Store.selected, List.mem_filter, eligible, Bool.and_eq_true, beq_iff_eq]
  tauto

theorem Superseded.mono {n : Nat} {seen seen' : List Obj} {v : Obj} (hsub : seen ⊆ seen')
    (h : Superseded ns key value getResourceFilterFn n seen v) :
    Superseded ns key value getResourceFilterFn n seen' v :=
  let ⟨K, hlen, hnodup, hK⟩ := h
  ⟨K, hlen, hnodup, fun w hw => let ⟨h₁, h₂⟩ := hK w hw; ⟨hsub h₁, h₂⟩⟩

theorem Superseded.of_key {n : Nat} {seen : List Obj} {v u : Obj}
    (h : Superseded ns key value getResourceFilterFn n seen v) (hkey : v.key = u.key)
    (hts : v.creationTimestamp = u.creationTimestamp) : Superseded ns key value getResourceFilterFn n seen u :=
  let ⟨K, hlen, hnodup, hK⟩ := h
  ⟨K, hlen, hnodup, fun w hw => let ⟨h₁, h₂, h₃, h₄⟩ := hK w hw; ⟨h₁, h₂, hkey ▸ h₃, hts ▸ h₄⟩⟩

theorem DeletesSuperseded.mono {n : Nat} {seen seen' : List Obj} {e : Event} (hsub : seen ⊆ seen')
    (h : DeletesSuperseded ns key value getResourceFilterFn n seen e) :
    DeletesSuperseded ns key value getResourceFilterFn n seen' e :=
  let ⟨v, hv, helig, hsup, hdel⟩ := h
  ⟨v, hsub hv, helig, hsup.mono hsub, hdel⟩

/-- What a pass does once its `List` is answered from the store: delete
siblings superseded by the ones it keeps. -/
theorem cleanupListed_deletes_superseded (hl : HistoryLimiter) {historyLimit : Int32} {s : Store} {seen resources : List Obj}
    (hperm : resources.Perm (s.selected ns key value)) (hseen : ∀ v ∈ s.objs, v ∈ seen) :
    CallsSatisfy (DeletesSuperseded ns key value getResourceFilterFn historyLimit.toInt.toNat seen)
      (hl.cleanupListed historyLimit getResourceFilterFn resources) := by
  have hnodup : (resources.map Obj.key).Nodup :=
    (hperm.map _).nodup_iff.mpr ((List.Sublist.map _ (List.filter_sublist _)).nodup s.nodup)
  have hmem : ∀ {o}, o ∈ completedOf getResourceFilterFn resources →
      o ∈ seen ∧ eligible ns key value getResourceFilterFn o = true := fun ho => by
    have := mem_completedOf_selected.mp ((hperm.filter _).subset ho)
    exact ⟨hseen _ this.1, this.2⟩
  refine (cleanupListed_calls hl historyLimit getResourceFilterFn hnodup).mono ?_
  rintro e ⟨v, hv, K, hKsub, hlen, hKnodup, hK, r, rfl⟩
  exact ⟨v, (hmem hv).1, (hmem hv).2,
    ⟨K, hlen, hKnodup, fun w hw => ⟨(hmem (hKsub hw)).1, (hmem (hKsub hw)).2, hK w hw⟩⟩, r, rfl⟩

end Passes

-- ---------------------------------------------------------------------------
-- The invariant of a run
-- ---------------------------------------------------------------------------

section Invariant

variable (hl : HistoryLimiter) (ns key value : String) (historyLimit : Int32) (getResourceFilterFn : Obj → Bool)

/-- What holds at every point of a run of passes: the objects seen under one
name share its creation time, the store holds only what was seen, every
eligible sibling ever seen that is not superseded still has an eligible object
stored under its name, and each pass has either not started or has only
deletes of superseded siblings left. -/
structure PassesInv (tr : List Label) (seen : List Obj) (s : Store) : Prop where
  consistent : ∀ v ∈ seen, ∀ w ∈ seen, v.key = w.key → v.creationTimestamp = w.creationTimestamp
  stored_seen : ∀ v ∈ s.objs, v ∈ seen
  kept : ∀ v ∈ seen, eligible ns key value getResourceFilterFn v = true →
    ¬ Superseded ns key value getResourceFilterFn historyLimit.toInt.toNat seen v →
      ∃ v' ∈ s.objs, v'.key = v.key ∧ eligible ns key value getResourceFilterFn v' = true
  passes : ∀ tid q, (hl.cleanupPass ns key value historyLimit getResourceFilterFn).feed (callsOf tr tid) = some q →
    callsOf tr tid = [] ∨
      CallsSatisfy (DeletesSuperseded ns key value getResourceFilterFn historyLimit.toInt.toNat seen) q

variable {hl ns key value historyLimit getResourceFilterFn}

theorem PassesInv.init (s₀ : Store) :
    PassesInv hl ns key value historyLimit getResourceFilterFn [] s₀.objs s₀ where
  consistent _ hv _ hw h := congrArg Obj.creationTimestamp (List.inj_on_of_nodup_map s₀.nodup hv hw h)
  stored_seen _ h := h
  kept v hv helig _ := ⟨v, hv, rfl, helig⟩
  passes _ _ _ := .inl rfl

theorem PassesInv.passes_mono {tr : List Label} {seen seen' : List Obj} {s : Store}
    (inv : PassesInv hl ns key value historyLimit getResourceFilterFn tr seen s) (hsub : seen ⊆ seen') :
    ∀ tid q, (hl.cleanupPass ns key value historyLimit getResourceFilterFn).feed (callsOf tr tid) = some q →
      callsOf tr tid = [] ∨
        CallsSatisfy (DeletesSuperseded ns key value getResourceFilterFn historyLimit.toInt.toNat seen') q :=
  fun tid q hq => (inv.passes tid q hq).imp_right fun h => h.mono fun _ he => he.mono hsub

theorem PassesInv.env {tr : List Label} {seen : List Obj} {s s' : Store}
    (inv : PassesInv hl ns key value historyLimit getResourceFilterFn tr seen s)
    (henv : KeepsSiblings ns key value getResourceFilterFn seen s s') :
    PassesInv hl ns key value historyLimit getResourceFilterFn (tr ++ [.env]) (seen ++ s'.objs) s' := by
  obtain ⟨hkeep, hnew⟩ := henv
  -- each object seen now continues one seen before, or is stored under a new name
  have hrep : ∀ u ∈ seen ++ s'.objs,
      (∃ o ∈ seen, o.key = u.key ∧ o.creationTimestamp = u.creationTimestamp) ∨
        (u ∈ s'.objs ∧ u.key ∉ seen.map Obj.key) := fun u hu => by
    rcases List.mem_append.mp hu with hu | hu
    · exact .inl ⟨u, hu, rfl, rfl⟩
    · exact (hnew u hu).imp (fun ⟨o, ho, hk, ht⟩ => ⟨o, inv.stored_seen o ho, hk, ht⟩) fun h => ⟨hu, h⟩
  refine ⟨fun v hv w hw hkey => ?_, fun v hv => List.mem_append_right _ hv, fun v hv helig hsup => ?_, ?_⟩
  · rcases hrep v hv with ⟨o₁, ho₁, hk₁, ht₁⟩ | ⟨hv', hfresh₁⟩ <;>
      rcases hrep w hw with ⟨o₂, ho₂, hk₂, ht₂⟩ | ⟨hw', hfresh₂⟩
    · rw [← ht₁, ← ht₂]
      exact inv.consistent o₁ ho₁ o₂ ho₂ (by rw [hk₁, hk₂, hkey])
    · exact absurd ((hk₁.trans hkey) ▸ List.mem_map_of_mem Obj.key ho₁) hfresh₂
    · exact absurd ((hk₂.trans hkey.symm) ▸ List.mem_map_of_mem Obj.key ho₂) hfresh₁
    · rw [List.inj_on_of_nodup_map s'.nodup hv' hw' hkey]
  · rcases List.mem_append.mp hv with hv' | hv'
    · obtain ⟨u, hu, hk, hel⟩ := inv.kept v hv' helig fun h => hsup (h.mono fun _ h => List.mem_append_left _ h)
      obtain ⟨u', hu', hk', hel'⟩ := hkeep u hu hel
      exact ⟨u', hu', hk'.trans hk, hel'⟩
    · exact ⟨v, hv', rfl, helig⟩
  · simpa [callsOf_append] using inv.passes_mono fun _ h => List.mem_append_left _ h

theorem cleanupPass_next {e : Event} {q : Prog (Except LimiterError Unit)}
    (h : (hl.cleanupPass ns key value historyLimit getResourceFilterFn).next e = some q) :
    ∃ r, e = .list ns key value r ∧
      q = match r with
        | .error err => ret (.error (.store err))
        | .ok resources => hl.cleanupListed historyLimit getResourceFilterFn resources := by
  cases e <;> simp only [HistoryLimiter.cleanupPass, next, Option.ite_none_right_eq_some,
    Option.some.injEq, reduceCtorEq] at h
  obtain ⟨⟨rfl, rfl, rfl⟩, rfl⟩ := h
  exact ⟨_, rfl, rfl⟩

/-- A call by `tid` that removes only superseded siblings keeps the invariant,
once `tid`'s continuation makes only deletes of superseded siblings. -/
theorem PassesInv.of_call {tr : List Label} {seen : List Obj} {s s' : Store} {tid : Nat} {e : Event}
    {q : Prog (Except LimiterError Unit)}
    (inv : PassesInv hl ns key value historyLimit getResourceFilterFn tr seen s)
    (hsub : ∀ v ∈ s'.objs, v ∈ s.objs)
    (hgone : ∀ v ∈ s.objs, v ∉ s'.objs →
      Superseded ns key value getResourceFilterFn historyLimit.toInt.toNat seen v)
    (hq : (hl.cleanupPass ns key value historyLimit getResourceFilterFn).feed
      (callsOf (tr ++ [.call tid e]) tid) = some q)
    (hsat : CallsSatisfy
      (DeletesSuperseded ns key value getResourceFilterFn historyLimit.toInt.toNat (seen ++ s'.objs)) q) :
    PassesInv hl ns key value historyLimit getResourceFilterFn (tr ++ [.call tid e]) (seen ++ s'.objs) s' := by
  have hseen : ∀ v ∈ seen ++ s'.objs, v ∈ seen := fun v hv =>
    (List.mem_append.mp hv).elim id fun h => inv.stored_seen v (hsub v h)
  have hmono : seen ⊆ seen ++ s'.objs := fun _ h => List.mem_append_left _ h
  refine ⟨fun v hv w hw => inv.consistent v (hseen v hv) w (hseen w hw),
    fun v hv => List.mem_append_right _ hv, fun v hv helig hsup => ?_, fun t q' h => ?_⟩
  · -- a sibling not superseded now was not superseded before: an object under
    -- its name was stored, and was not removed
    have hsup' : ¬ Superseded ns key value getResourceFilterFn historyLimit.toInt.toNat seen v :=
      fun h => hsup (h.mono hmono)
    obtain ⟨u, hu, hk, hel⟩ := inv.kept v (hseen v hv) helig hsup'
    refine ⟨u, ?_, hk, hel⟩
    by_contra hnot
    exact hsup' ((hgone u hu hnot).of_key hk (inv.consistent u (inv.stored_seen u hu) v (hseen v hv) hk))
  · by_cases ht : t = tid
    · subst ht
      rw [hq, Option.some.injEq] at h
      exact .inr (h ▸ hsat)
    · rw [callsOf_append, callsOf_call_of_ne (Ne.symm ht), List.append_nil] at h ⊢
      exact inv.passes_mono hmono t q' h

/-- A call by a pass keeps the invariant: a `List` leaves the store as it was
and leaves the pass with deletes of superseded siblings; a `Delete` removes a
sibling that was already superseded. -/
theorem PassesInv.call {tr : List Label} {seen : List Obj} {s s' : Store}
    {tid : Nat} {e : Event} (inv : PassesInv hl ns key value historyLimit getResourceFilterFn tr seen s)
    (hans : s.Answers e s')
    (hfeed : ∃ q, (hl.cleanupPass ns key value historyLimit getResourceFilterFn).feed
      (callsOf (tr ++ [.call tid e]) tid) = some q) :
    PassesInv hl ns key value historyLimit getResourceFilterFn (tr ++ [.call tid e]) (seen ++ s'.objs) s' := by
  obtain ⟨q'', hq''⟩ := hfeed
  have hsplit := hq''
  rw [callsOf_append, callsOf_call_self] at hsplit
  obtain ⟨q, hq, hnext⟩ := feed_append_eq_some hsplit
  replace hnext : q.next e = some q'' := by simpa [feed_cons, Option.bind_eq_some] using hnext
  rcases inv.passes tid q hq with hfirst | hdeletes
  · -- the pass lists
    rw [hfirst, feed_nil, Option.some.injEq] at hq
    subst hq
    obtain ⟨r, rfl, rfl⟩ := cleanupPass_next hnext
    cases hans.list_eq
    refine inv.of_call (fun _ h => h) (fun _ h h' => absurd h h') hq'' ?_
    cases hans with
    | listed hperm =>
      exact cleanupListed_deletes_superseded hl hperm fun v hv => List.mem_append_right _ hv
    | listFailed => exact .ret _
  · -- the pass deletes a superseded sibling
    obtain ⟨⟨v, hv, -, hsup, r, rfl⟩, hrest⟩ := hdeletes.next hnext
    obtain ⟨hsub, hgone⟩ := hans.delete_objs
    refine inv.of_call hsub (fun w hw hnot => ?_) hq''
      (hrest.mono fun _ he => he.mono fun _ h => List.mem_append_left _ h)
    have hkey : v.key = w.key := (hgone w hw hnot).symm
    exact hsup.of_key hkey (inv.consistent v hv w (inv.stored_seen w hw) hkey)

/-- The invariant holds at every point of every run of passes. -/
theorem PassesInv.of_run {s₀ s : Store} {tr : List Label} {seen : List Obj}
    (hrun : Store.Run (KeepsSiblings ns key value getResourceFilterFn) s₀ tr seen s)
    (hpasses : ∀ tid, ∃ q, (hl.cleanupPass ns key value historyLimit getResourceFilterFn).feed
      (callsOf tr tid) = some q) :
    PassesInv hl ns key value historyLimit getResourceFilterFn tr seen s := by
  induction hrun with
  | nil => exact .init _
  | call tid _ hans ih =>
    refine (ih fun t => ?_).call hans (hpasses tid)
    obtain ⟨q, hq⟩ := hpasses t
    obtain ⟨q', hq', -⟩ := feed_append_eq_some (by rwa [callsOf_append] at hq)
    exact ⟨q', hq'⟩
  | env _ henv ih =>
    refine (ih fun t => ?_).env henv
    obtain ⟨q, hq⟩ := hpasses t
    exact ⟨q, by simpa [callsOf_append] using hq⟩

end Invariant

-- ---------------------------------------------------------------------------
-- How many are left
-- ---------------------------------------------------------------------------

def tsOf (seen : List Obj) (k : String × String) : Int :=
  ((seen.find? (·.key == k)).map (·.creationTimestamp)).getD 0

def NewerName (seen : List Obj) (a b : String × String) : Prop := tsOf seen b ≤ tsOf seen a

instance (seen : List Obj) : DecidableRel (NewerName seen) := fun a b =>
  inferInstanceAs (Decidable (tsOf seen b ≤ tsOf seen a))

instance (seen : List Obj) : IsTotal (String × String) (NewerName seen) :=
  ⟨fun a b => le_total (tsOf seen b) (tsOf seen a)⟩

instance (seen : List Obj) : IsTrans (String × String) (NewerName seen) :=
  ⟨fun _ _ _ hab hbc => le_trans hbc hab⟩

theorem tsOf_key {seen : List Obj}
    (hcons : ∀ v ∈ seen, ∀ w ∈ seen, v.key = w.key → v.creationTimestamp = w.creationTimestamp)
    {v : Obj} (hv : v ∈ seen) : tsOf seen v.key = v.creationTimestamp := by
  have hsome : (seen.find? (·.key == v.key)).isSome := List.find?_isSome.mpr ⟨v, hv, beq_self_eq_true _⟩
  obtain ⟨u, hu⟩ := Option.isSome_iff_exists.mp hsome
  have hkey : u.key = v.key := by simpa using List.find?_some hu
  simp [tsOf, hu, hcons u (List.mem_of_find?_eq_some hu) v hv hkey]

/-- With pairwise distinct creation times among the names of eligible siblings
ever seen, the newest `min n C` of the `C` names are not superseded; if each of
those still has an eligible object stored, at least `min n C` eligible siblings
are stored. -/
theorem min_le_stored {ns key value : String} {getResourceFilterFn : Obj → Bool} {n : Nat}
    {seen : List Obj} {s : Store}
    (hcons : ∀ v ∈ seen, ∀ w ∈ seen, v.key = w.key → v.creationTimestamp = w.creationTimestamp)
    (hkept : ∀ v ∈ seen, eligible ns key value getResourceFilterFn v = true →
      ¬ Superseded ns key value getResourceFilterFn n seen v →
        ∃ v' ∈ s.objs, v'.key = v.key ∧ eligible ns key value getResourceFilterFn v' = true)
    (hdistinct : ∀ v ∈ seen, ∀ w ∈ seen, eligible ns key value getResourceFilterFn v = true →
      eligible ns key value getResourceFilterFn w = true → v.creationTimestamp = w.creationTimestamp →
        v.key = w.key) :
    min n ((seen.filter (eligible ns key value getResourceFilterFn)).map Obj.key).dedup.length ≤
      (s.objs.filter (eligible ns key value getResourceFilterFn)).length := by
  set C := ((seen.filter (eligible ns key value getResourceFilterFn)).map Obj.key).dedup
  set D := C.insertionSort (NewerName seen)
  set m := min n C.length
  have hperm : D.Perm C := List.perm_insertionSort _ _
  have hsorted : D.Sorted (NewerName seen) := List.sorted_insertionSort _ _
  have hmem : ∀ {k}, k ∈ D ↔ ∃ v ∈ seen, eligible ns key value getResourceFilterFn v = true ∧ v.key = k := by
    simp [hperm.mem_iff, C, List.mem_dedup, List.mem_filter, and_assoc]
  -- each of the newest `m` names has a sibling that is not superseded, so one is stored
  have hnewest : ∀ k ∈ D.take m, ∃ v' ∈ s.objs, v'.key = k ∧ eligible ns key value getResourceFilterFn v' = true := by
    intro k hk
    obtain ⟨v, hvs, hve, rfl⟩ := hmem.mp (List.mem_of_mem_take hk)
    refine hkept v hvs hve fun ⟨K, hlen, hKnodup, hK⟩ => ?_
    have hsub : K.map Obj.key ⊆ (D.take m).erase v.key := fun k' hk' => by
      obtain ⟨w, hw, rfl⟩ := List.mem_map.mp hk'
      obtain ⟨hws, hwe, hkey, hts⟩ := hK w hw
      have hwD := hmem.mpr ⟨w, hws, hwe, rfl⟩
      rw [← List.take_append_drop m D] at hwD
      rcases List.mem_append.mp hwD with hwt | hwd
      · exact (List.mem_erase_of_ne hkey).mpr hwt
      · have hle : tsOf seen w.key ≤ tsOf seen v.key := hsorted.rel_of_mem_take_of_mem_drop hk hwd
        rw [tsOf_key hcons hws, tsOf_key hcons hvs] at hle
        exact absurd (hdistinct w hws v hvs hwe hve (le_antisymm hle hts)) hkey
    have hKlen := (List.subperm_of_subset hKnodup hsub).length_le
    have hpos := List.length_pos_of_mem hk
    rw [List.length_map, List.length_erase_of_mem hk, List.length_take] at hKlen
    rw [List.length_take] at hpos
    omega
  have hstored : D.take m ⊆ (s.objs.filter (eligible ns key value getResourceFilterFn)).map Obj.key :=
    fun k hk => by
      obtain ⟨v', hv', rfl, hel⟩ := hnewest k hk
      exact List.mem_map_of_mem _ (List.mem_filter.mpr ⟨hv', hel⟩)
  have hnodup : (D.take m).Nodup := (hperm.nodup_iff.mpr (List.nodup_dedup _)).sublist (List.take_sublist _ _)
  have := (List.subperm_of_subset hnodup hstored).length_le
  rw [List.length_take, hperm.length_eq, List.length_map] at this
  omega

/-- Cleanup passes for one grouping and status filter, all with one limit,
interleaved in any way, each listing the store at its own step, while the rest
of the world deletes no eligible sibling and keeps each name's creation time:
every eligible sibling ever stored that has fewer than `L` others created no
earlier still has an eligible object stored under its name, at every point.
When the eligible siblings' creation times are pairwise distinct, at least
`min(L, C)` of the `C` ever stored remain. -/
theorem cleanup_passes_keep_unsuperseded {hl : HistoryLimiter}
    {getHistoryLimitFn : String → String → SelectorSpec → Option Int32} {getResourceFilterFn : Obj → Bool}
    {ns key value : String} {historyLimit : Int32} (res : Nat → Obj)
    (hres : ∀ tid, (res tid).ns = ns ∧ hl.labelKey (res tid) = key ∧ hl.resourceName (res tid) = value ∧
      getHistoryLimitFn (res tid).ns (hl.resourceName (res tid)) (getResourceSelectors (res tid)) =
        some historyLimit)
    {s₀ s : Store} {tr : List Label} {seen : List Obj}
    (hrun : Store.Run (KeepsSiblings ns key value getResourceFilterFn) s₀ tr seen s)
    (hpasses : ∀ tid, ∃ q, (hl.doResourceCleanup (res tid) getHistoryLimitFn getResourceFilterFn).feed
      (callsOf tr tid) = some q) :
    (∀ v ∈ seen, eligible ns key value getResourceFilterFn v = true →
      ¬ Superseded ns key value getResourceFilterFn historyLimit.toInt.toNat seen v →
        ∃ v' ∈ s.objs, v'.key = v.key ∧ eligible ns key value getResourceFilterFn v' = true) ∧
    ((∀ v ∈ seen, ∀ w ∈ seen, eligible ns key value getResourceFilterFn v = true →
        eligible ns key value getResourceFilterFn w = true →
          v.creationTimestamp = w.creationTimestamp → v.key = w.key) →
      min historyLimit.toInt.toNat
          ((seen.filter (eligible ns key value getResourceFilterFn)).map Obj.key).dedup.length ≤
        (s.objs.filter (eligible ns key value getResourceFilterFn)).length) := by
  have hprog : ∀ tid, hl.doResourceCleanup (res tid) getHistoryLimitFn getResourceFilterFn =
      hl.cleanupPass ns key value historyLimit getResourceFilterFn := fun tid => by
    obtain ⟨hns, hkey, hvalue, hlimit⟩ := hres tid
    rw [doResourceCleanup_of_some hl (res tid) getHistoryLimitFn getResourceFilterFn hlimit, hns, hkey, hvalue]
  have inv := PassesInv.of_run hrun fun tid => by simpa only [hprog] using hpasses tid
  exact ⟨inv.kept, min_le_stored inv.consistent inv.kept⟩

-- ---------------------------------------------------------------------------
-- Two passes over three runs
-- ---------------------------------------------------------------------------

def twoSuccessLimiter : HistoryLimiter := fixedLimiter (some 2) none insertionSortSlice

/-- Three completed runs of `build`; the first two were created in the same second. -/
def tiedStore : Store :=
  ⟨[buildRun "build-a" 100 .succeeded, buildRun "build-b" 100 .succeeded,
    buildRun "build-c" 200 .succeeded], by decide⟩

/-- Two passes list the runs before either deletes, in different orders, and
each deletes the run its sort puts first. -/
def tiedTrace : List Label :=
  [.call 0 (.list "ns" "tekton.dev/pipeline" "build" (.ok [buildRun "build-a" 100 .succeeded,
      buildRun "build-b" 100 .succeeded, buildRun "build-c" 200 .succeeded])),
    .call 1 (.list "ns" "tekton.dev/pipeline" "build" (.ok [buildRun "build-b" 100 .succeeded,
      buildRun "build-a" 100 .succeeded, buildRun "build-c" 200 .succeeded])),
    .call 0 (.delete "ns" "build-a" (.ok ())), .call 1 (.delete "ns" "build-b" (.ok ()))]

theorem tiedTrace_run :
    ∃ seen, Store.Run (fun _ _ _ => False) tiedStore tiedTrace seen
      ((tiedStore.erase "ns" "build-a").erase "ns" "build-b") :=
  Store.Run.cons (.listed (by decide)) <| Store.Run.cons (.listed (by decide)) <|
    Store.Run.cons (.deleteFound rfl) <| Store.Run.cons (.deleteFound rfl) <| ⟨_, .nil _⟩

/-- Two passes with a limit of 2 over three siblings, two of them tied, leave one. -/
theorem tied_siblings_both_deleted :
    ∃ s seen, Store.Run (fun _ _ _ => False) tiedStore tiedTrace seen s ∧
      (twoSuccessLimiter.doSuccessfulResourceCleanup (buildRun "build-c" 200 .succeeded)).Runs
        (callsOf tiedTrace 0) (.returned (.ok ())) ∧
      (twoSuccessLimiter.doSuccessfulResourceCleanup (buildRun "build-c" 200 .succeeded)).Runs
        (callsOf tiedTrace 1) (.returned (.ok ())) ∧
      (tiedStore.objs.filter (eligible "ns" "tekton.dev/pipeline" "build" isSuccessful)).length = 3 ∧
      (s.objs.filter (eligible "ns" "tekton.dev/pipeline" "build" isSuccessful)).length = 1 :=
  let ⟨seen, hrun⟩ := tiedTrace_run
  ⟨_, seen, hrun, rfl, rfl, rfl, rfl⟩

/-- The same three runs, created in three different seconds. -/
def distinctStore : Store :=
  ⟨[buildRun "build-a" 100 .succeeded, buildRun "build-b" 150 .succeeded,
    buildRun "build-c" 200 .succeeded], by decide⟩

/-- Two passes list the runs in different orders and both delete the oldest.
In between, another client marks `build-b` as processed, and the second pass
finds the oldest gone. -/
def distinctTrace : List Label :=
  [.call 0 (.list "ns" "tekton.dev/pipeline" "build" (.ok [buildRun "build-a" 100 .succeeded,
      buildRun "build-b" 150 .succeeded, buildRun "build-c" 200 .succeeded])),
    .call 1 (.list "ns" "tekton.dev/pipeline" "build" (.ok [buildRun "build-b" 150 .succeeded,
      buildRun "build-a" 100 .succeeded, buildRun "build-c" 200 .succeeded])),
    .call 0 (.delete "ns" "build-a" (.ok ())), .env, .call 1 (.delete "ns" "build-a" (.error .notFound))]

def distinctFinal : Store :=
  (distinctStore.erase "ns" "build-a").patch "ns" "build-b"
    [("pruner.tekton.dev/history-limit-processed", some "1970-01-01T00:02:30Z")]

theorem distinctTrace_run :
    ∃ seen, Store.Run (KeepsSiblings "ns" "tekton.dev/pipeline" "build" isSuccessful)
      distinctStore distinctTrace seen distinctFinal :=
  ⟨_, ((((Store.Run.nil distinctStore).call 0 (.listed (by decide))).call 1 (.listed (by decide))).call 0
    (.deleteFound (show (distinctStore.find? "ns" "build-a").isSome from rfl))).env (by decide) |>.call 1
    (.deleteMissing (show distinctFinal.find? "ns" "build-a" = none from rfl))⟩

theorem distinctTrace_passes (tid : Nat) :
    ∃ q, (twoSuccessLimiter.doResourceCleanup (buildRun "build-c" 200 .succeeded)
      twoSuccessLimiter.GetSuccessHistoryLimitCount isSuccessful).feed (callsOf distinctTrace tid) = some q :=
  match tid with
  | 0 => ⟨_, rfl⟩
  | 1 => ⟨_, rfl⟩
  | t + 2 => ⟨_, by rw [show callsOf distinctTrace (t + 2) = [] by simp [distinctTrace, callsOf]]; rfl⟩

theorem distinct_passes_keep_newest :
    ∃ seen s, Store.Run (KeepsSiblings "ns" "tekton.dev/pipeline" "build" isSuccessful)
        distinctStore distinctTrace seen s ∧
      (∀ v ∈ seen, eligible "ns" "tekton.dev/pipeline" "build" isSuccessful v = true →
        ¬ Superseded "ns" "tekton.dev/pipeline" "build" isSuccessful (2 : Int32).toInt.toNat seen v →
          ∃ v' ∈ s.objs, v'.key = v.key ∧ eligible "ns" "tekton.dev/pipeline" "build" isSuccessful v' = true) ∧
      ((∀ v ∈ seen, ∀ w ∈ seen, eligible "ns" "tekton.dev/pipeline" "build" isSuccessful v = true →
          eligible "ns" "tekton.dev/pipeline" "build" isSuccessful w = true →
            v.creationTimestamp = w.creationTimestamp → v.key = w.key) →
        min (2 : Int32).toInt.toNat
            ((seen.filter (eligible "ns" "tekton.dev/pipeline" "build" isSuccessful)).map Obj.key).dedup.length ≤
          (s.objs.filter (eligible "ns" "tekton.dev/pipeline" "build" isSuccessful)).length) :=
  let ⟨seen, hrun⟩ := distinctTrace_run
  have hres : ∀ _tid : Nat, (buildRun "build-c" 200 .succeeded).ns = "ns" ∧
      twoSuccessLimiter.labelKey (buildRun "build-c" 200 .succeeded) = "tekton.dev/pipeline" ∧
      twoSuccessLimiter.resourceName (buildRun "build-c" 200 .succeeded) = "build" ∧
      twoSuccessLimiter.GetSuccessHistoryLimitCount "ns"
        (twoSuccessLimiter.resourceName (buildRun "build-c" 200 .succeeded))
        (getResourceSelectors (buildRun "build-c" 200 .succeeded)) = some 2 :=
    fun _ => ⟨rfl, rfl, rfl, rfl⟩
  ⟨seen, _, hrun, cleanup_passes_keep_unsuperseded _ hres hrun distinctTrace_passes⟩

end TektonPruner.History
