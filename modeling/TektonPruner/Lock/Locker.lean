import TektonPruner.Lock.Value
import TektonPruner.Store.Run

/-!
# Acquiring and releasing the processing lock

`TryLock` decides on the snapshot it is given: a lock held by another
instance and less than `LockTimeout` old makes it give up. Otherwise it writes
a fresh value with an unconditional merge patch and re-reads the resource; it
holds the lock when the value read back is its own. `ReleaseLock` also decides
on its snapshot, and then sends the `null` patch, which clears whatever lock
is stored when it lands.

So two callers whose snapshots both predate the other's patch both get the
lock. The check does stop a caller whose snapshot was read after the other's
patch, while that lock is valid. And in every interleaving two successful calls
never overlap: the one that patched first has re-read before the other patches.

The patch bodies are built with `fmt.Sprintf`; they are read here as the
patches they spell, which they are for an instance ID JSON need not escape.
-/

namespace TektonPruner

open Prog

/-- `{"metadata":{"annotations":{"tekton-pruner.io/processing-lock":"<lockValue>"}}}`. -/
def lockPatch (lockValue : String) : AnnotationPatch := [( prunerLockAnnotation, some lockValue)]

/-- `{"metadata":{"annotations":{"tekton-pruner.io/processing-lock":null}}}`. -/
def unlockPatch : AnnotationPatch := [( prunerLockAnnotation, none)]

namespace ResourceLocker

/-- `TryLock` from "Try to acquire lock" on. -/
def acquire (rl : ResourceLocker) (resource : Obj) : Prog (Except StatusError Bool) :=
  now fun t =>
    patch resource.ns resource.name (lockPatch (rl.lockValueAt t)) fun
      | .error err => ret (.error err)
      | .ok () => get resource.ns resource.name fun
        | .error err => ret (.error err)
        | .ok updatedResource =>
          ret (.ok ((updatedResource.annotations.get? prunerLockAnnotation).getD "" == rl.lockValueAt t))

/-- `TryLock` on the snapshot `resource`: `ok b` is `(b, nil)` and `error err` is
`(false, err)`. -/
def tryLock (rl : ResourceLocker) (resource : Obj) : Prog (Except StatusError Bool) :=
  match resource.annotations.get? prunerLockAnnotation with
  | some lockValue =>
    (rl.isLockValid lockValue).bind fun valid =>
      if valid && !rl.isOwnedByMe lockValue then ret (.ok false) else rl.acquire resource
  | none => rl.acquire resource

def releaseLock (rl : ResourceLocker) (resource : Obj) : Prog (Except StatusError Unit) :=
  match resource.annotations.get? prunerLockAnnotation with
  | some lockValue =>
    if rl.isOwnedByMe lockValue then patch resource.ns resource.name unlockPatch ret else ret (.ok ())
  | none => ret (.ok ())

-- ---------------------------------------------------------------------------
-- What one call does
-- ---------------------------------------------------------------------------

theorem lockValueAt_ne_empty (rl : ResourceLocker) (t : Int) : rl.lockValueAt t ≠ "" := fun h => by
  simpa [lockValueAt] using congrArg String.data h

theorem isLockValid_runs {rl : ResourceLocker} {lockValue : String} {es : List Event}
    {o : Outcome Bool} (h : (rl.isLockValid lockValue).Runs es o) :
    (∃ b, o = .returned b) ∧ ∀ e ∈ es, ∃ t, e = .now t := by
  unfold isLockValid at h
  split at h
  · split at h
    · obtain ⟨t, es', rfl, h⟩ := runs_now_iff.mp h
      obtain ⟨rfl, rfl⟩ := runs_ret_iff.mp h
      exact ⟨⟨_, rfl⟩, by simp⟩
    · obtain ⟨rfl, rfl⟩ := runs_ret_iff.mp h
      exact ⟨⟨_, rfl⟩, by simp⟩
  · obtain ⟨rfl, rfl⟩ := runs_ret_iff.mp h
    exact ⟨⟨_, rfl⟩, by simp⟩

theorem acquire_runs_ok_true {rl : ResourceLocker} {resource : Obj} {es : List Event}
    (h : (rl.acquire resource).Runs es (.returned (.ok true))) :
    ∃ t u, es = [.now t, .patch resource.ns resource.name (lockPatch (rl.lockValueAt t)) (.ok ()),
        .get resource.ns resource.name (.ok u)] ∧
      u.annotations.get? prunerLockAnnotation = some (rl.lockValueAt t) := by
  obtain ⟨t, es, rfl, h₁⟩ := runs_now_iff.mp h
  obtain ⟨r, es, rfl, h₂⟩ := runs_patch_iff.mp h₁
  rcases r with err | ⟨⟩
  · cases (runs_ret_iff.mp h₂).2
  obtain ⟨r, es, rfl, h₃⟩ := runs_get_iff.mp h₂
  rcases r with err | u
  · cases (runs_ret_iff.mp h₃).2
  obtain ⟨rfl, hres⟩ := runs_ret_iff.mp h₃
  have hread : (u.annotations.get? prunerLockAnnotation).getD "" = rl.lockValueAt t := by
    simpa using hres
  refine ⟨t, u, rfl, ?_⟩
  cases hu : u.annotations.get? prunerLockAnnotation with
  | none => exact absurd (by simpa [hu] using hread.symm) (lockValueAt_ne_empty rl t)
  | some v => simpa [hu] using hread

/-- A `TryLock` that gets the lock: perhaps a clock reading for the validity
check, then the acquisition. -/
theorem tryLock_runs_ok_true {rl : ResourceLocker} {resource : Obj} {es : List Event}
    (h : (rl.tryLock resource).Runs es (.returned (.ok true))) :
    ∃ pre t u, es = pre ++ [.now t, .patch resource.ns resource.name (lockPatch (rl.lockValueAt t)) (.ok ()),
        .get resource.ns resource.name (.ok u)] ∧
      u.annotations.get? prunerLockAnnotation = some (rl.lockValueAt t) ∧ ∀ e ∈ pre, ∃ t', e = .now t' := by
  unfold tryLock at h
  split at h
  · rcases Runs.of_bind h with ⟨es₁, es₂, valid, rfl, h₁, h₂⟩ | ⟨m, hm, h₁⟩
    · have hacq : (rl.acquire resource).Runs es₂ (.returned (.ok true)) := by
        split at h₂
        · cases (runs_ret_iff.mp h₂).2
        · exact h₂
      obtain ⟨t, u, rfl, hu⟩ := acquire_runs_ok_true hacq
      exact ⟨es₁, t, u, rfl, hu, (isLockValid_runs h₁).2⟩
    · cases hm
  · obtain ⟨t, u, rfl, hu⟩ := acquire_runs_ok_true h
    exact ⟨[], t, u, rfl, hu, by simp⟩

/-- `ReleaseLock` on a snapshot whose lock is its own: one `null` patch,
whatever it answers. -/
theorem releaseLock_runs_of_owned {rl : ResourceLocker} {resource : Obj} {v : String}
    (hv : resource.annotations.get? prunerLockAnnotation = some v) (hown : rl.isOwnedByMe v = true)
    {es : List Event} {o : Outcome (Except StatusError Unit)} :
    (rl.releaseLock resource).Runs es o ↔
      ∃ r, es = [.patch resource.ns resource.name unlockPatch r] ∧ o = .returned r := by
  simp only [releaseLock, hv, hown, if_true, runs_patch_iff, runs_ret_iff]
  constructor
  · rintro ⟨r, _, rfl, rfl, rfl⟩
    exact ⟨r, rfl, rfl⟩
  · rintro ⟨r, rfl, rfl⟩
    exact ⟨r, [], rfl, rfl, rfl⟩

theorem releaseLock_runs_of_not_owned {rl : ResourceLocker} {resource : Obj}
    (hnot : ¬ ∃ v, resource.annotations.get? prunerLockAnnotation = some v ∧ rl.isOwnedByMe v = true)
    {es : List Event} {o : Outcome (Except StatusError Unit)} :
    (rl.releaseLock resource).Runs es o ↔ es = [] ∧ o = .returned (.ok ()) := by
  unfold releaseLock
  split
  · rename_i v hv
    rw [if_neg fun h => hnot ⟨v, hv, h⟩]
    exact runs_ret_iff
  · exact runs_ret_iff

/-- A snapshot holding another instance's lock, checked less than `LockTimeout`
after its lock time: `TryLock` reads the clock and gives up, with no patch. -/
theorem tryLock_runs_of_other_valid_lock {rl other : ResourceLocker} {resource : Obj} {t₀ now : Int}
    (hascii : IsAscii other.instanceID) (hcolon : ':' ∉ other.instanceID.data) (h0 : 0 ≤ t₀)
    (ht : t₀ + unixToInternal < 2 ^ 63) (hne : other ≠ rl)
    (hlock : resource.annotations.get? prunerLockAnnotation = some (other.lockValueAt t₀))
    (hnow : now - t₀ < lockTimeout) :
    (rl.tryLock resource).Runs [.now now] (.returned (.ok false)) ∧
      ∀ es o, (rl.tryLock resource).Runs (.now now :: es) o → es = [] ∧ o = .returned (.ok false) := by
  have hown : rl.isOwnedByMe (other.lockValueAt t₀) = false :=
    Bool.eq_false_iff.mpr fun h => hne ((isOwnedByMe_lockValueAt hascii hcolon t₀ rl).mp h).symm
  have hnext : (rl.tryLock resource).next (.now now) = some (ret (.ok false)) := by
    simp [tryLock, hlock, isLockValid_lockValueAt hascii hcolon h0 ht, hown, hnow, Prog.bind, next]
  refine ⟨runs_cons_iff.mpr ⟨_, hnext, runs_ret_iff.mpr ⟨rfl, rfl⟩⟩, fun es o h => ?_⟩
  obtain ⟨q, hq, hrest⟩ := runs_cons_iff.mp h
  rw [hnext] at hq
  cases hq
  exact runs_ret_iff.mp hrest

end ResourceLocker

-- ---------------------------------------------------------------------------
-- The lock in the store
-- ---------------------------------------------------------------------------

/-- The rest of the world never writes a lock value on `ns/name`. -/
def KeepsLock (ns name : String) (E : Store → Store → Prop) : Prop :=
  ∀ s s' v, E s s' → s.annotation? ns name prunerLockAnnotation ≠ some v →
    s'.annotation? ns name prunerLockAnnotation ≠ some v

def KeepsLockValue (ns name : String) (E : Store → Store → Prop) : Prop :=
  ∀ s s', E s s' → s'.annotation? ns name prunerLockAnnotation = s.annotation? ns name prunerLockAnnotation

theorem annotation?_patch_unlockPatch (s : Store) (ns name : String) :
    (s.patch ns name unlockPatch).annotation? ns name prunerLockAnnotation = none := by
  rw [Store.annotation?_patch]
  cases s.find? ns name <;> simp [unlockPatch, StringMap.mergePatch]

theorem annotation?_patch_lockPatch {s : Store} {ns name : String} (h : (s.find? ns name).isSome)
    (lockValue : String) :
    (s.patch ns name (lockPatch lockValue)).annotation? ns name prunerLockAnnotation = some lockValue := by
  rw [Store.annotation?_patch]
  obtain ⟨o, ho⟩ := Option.isSome_iff_exists.mp h
  simp [ho, lockPatch, StringMap.mergePatch]

section Interleaving

variable {E : Store → Store → Prop} {s₀ s : Store} {tr : List Label} {seen : List Obj}

/-- Along steps none of which sets the lock to `v`, a lock that does not read `v`
keeps not reading it. -/
theorem Store.Run.lock_ne {ns name v : String} (hE : KeepsLock ns name E)
    (hrun : Store.Run (fun _ => E) s₀ tr seen s)
    (hw : ∀ tid p r, Label.call tid (.patch ns name p r) ∈ tr → ( prunerLockAnnotation, some v) ∉ p)
    (h₀ : s₀.annotation? ns name prunerLockAnnotation ≠ some v) :
    s.annotation? ns name prunerLockAnnotation ≠ some v :=
  hrun.invariant
    (fun tid _ _ _ hm hs hans => hans.annotation?_ne (fun p r he => hw tid p r (he ▸ hm)) hs)
    (fun _ _ _ he hs => hE _ _ _ he hs) h₀

theorem Store.Run.lock_stays {ns name : String} (hE : KeepsLockValue ns name E)
    (hrun : Store.Run (fun _ => E) s₀ tr seen s)
    (hread : ∀ tid e, Label.call tid e ∈ tr → e.isPatch = false ∧ e.deleted? = none) :
    s.annotation? ns name prunerLockAnnotation = s₀.annotation? ns name prunerLockAnnotation :=
  hrun.invariant
    (fun tid e _ _ hm hs hans => by rw [hans.eq_of_read (hread tid e hm).1 (hread tid e hm).2]; exact hs)
    (fun _ _ _ he hs => (hE _ _ he).trans hs) rfl

/-- A `TryLock` by caller `tid` that got the lock, placed in the interleaving
`tr`: its patch writing `lockValue` and its re-read seeing it, with the steps
before, between and after them. It makes no other patch. -/
structure Acquisition (tr : List Label) (tid : Nat) (ns name lockValue : String) where
  before : List Label
  window : List Label
  after : List Label
  reread : Obj
  split : tr = before ++ .call tid (.patch ns name (lockPatch lockValue) (.ok ())) ::
    (window ++ .call tid (.get ns name (.ok reread)) :: after)
  before_noPatch : ∀ e ∈ callsOf before tid, e.isPatch = false
  window_quiet : callsOf window tid = []
  after_quiet : callsOf after tid = []
  reread_lock : reread.annotations.get? prunerLockAnnotation = some lockValue

theorem ResourceLocker.tryLock_acquisition {rl : ResourceLocker} {resource : Obj} {tid : Nat}
    (h : (rl.tryLock resource).Runs (callsOf tr tid) (.returned (.ok true))) :
    ∃ t, Nonempty (Acquisition tr tid resource.ns resource.name (rl.lockValueAt t)) := by
  obtain ⟨pre, t, u, hcalls, hu, hpre⟩ := ResourceLocker.tryLock_runs_ok_true h
  have hcalls' : callsOf tr tid = (pre ++ [.now t]) ++
      Event.patch resource.ns resource.name (lockPatch (rl.lockValueAt t)) (.ok ()) ::
        [Event.get resource.ns resource.name (.ok u)] := by
    rw [hcalls]; simp
  obtain ⟨T₁, T₂, rfl, h₁, h₂⟩ := exists_split_of_callsOf_eq hcalls'
  obtain ⟨W, A, rfl, hW, hA⟩ := exists_split_of_callsOf_eq
    (show callsOf T₂ tid = [] ++ Event.get resource.ns resource.name (.ok u) :: [] from h₂)
  refine ⟨t, ⟨T₁, W, A, u, rfl, ?_, hW, hA, hu⟩⟩
  intro e he
  rw [h₁] at he
  rcases List.mem_append.mp he with he | he
  · obtain ⟨t', rfl⟩ := hpre e he
    rfl
  · simp_all [Event.isPatch]

namespace Acquisition

variable {x y : Nat} {ns name lvX lvY : String}

theorem callsOf_eq (X : Acquisition tr x ns name lvX) :
    callsOf tr x = callsOf X.before x ++
      [.patch ns name (lockPatch lvX) (.ok ()), .get ns name (.ok X.reread)] := by
  have h := congrArg (callsOf · x) X.split
  simpa [X.window_quiet, X.after_quiet] using h

theorem patch_mem (X : Acquisition tr x ns name lvX) {ns' name' : String} {p : AnnotationPatch}
    {r : Except StatusError Unit} (h : .patch ns' name' p r ∈ callsOf tr x) : p = lockPatch lvX := by
  rw [X.callsOf_eq] at h
  rcases List.mem_append.mp h with h | h
  · cases X.before_noPatch _ h
  · simp at h
    exact h.2.2.1

theorem patch_order (X : Acquisition tr x ns name lvX) (Y : Acquisition tr y ns name lvY) (hxy : x ≠ y) :
    (∃ c, Y.before = X.before ++ .call x (.patch ns name (lockPatch lvX) (.ok ())) :: c) ∨
      ∃ c, X.before = Y.before ++ .call y (.patch ns name (lockPatch lvY) (.ok ())) :: c := by
  rcases List.append_eq_append_iff.mp (X.split.symm.trans Y.split) with ⟨c, hc, hrest⟩ | ⟨c, hc, hrest⟩
  · cases c with
    | nil => cases hxy (Label.call.inj (List.cons.inj hrest).1).1
    | cons l c =>
      cases (List.cons.inj hrest).1
      exact .inl ⟨c, hc⟩
  · cases c with
    | nil => cases hxy (Label.call.inj (List.cons.inj hrest).1).1.symm
    | cons l c =>
      cases (List.cons.inj hrest).1
      exact .inr ⟨c, hc⟩

/-- The acquisition that patched first re-read before the other patched: had the
other's patch landed in between, the re-read would have seen the other's value,
as nothing writes the first value again. -/
theorem reread_before_patch (X : Acquisition tr x ns name lvX) (Y : Acquisition tr y ns name lvY)
    (hxy : x ≠ y) (hlv : lvX ≠ lvY) (hE : KeepsLock ns name E) (hrun : Store.Run (fun _ => E) s₀ tr seen s)
    (hothers : ∀ tid, tid ≠ x → tid ≠ y → callsOf tr tid = [])
    (hfirst : ∃ c, Y.before = X.before ++ .call x (.patch ns name (lockPatch lvX) (.ok ())) :: c) :
    ∃ tr₁ tr₂, tr = tr₁ ++ tr₂ ∧ callsOf tr₁ x = callsOf tr x ∧ ∀ e ∈ callsOf tr₁ y, e.isPatch = false := by
  obtain ⟨c, hc⟩ := hfirst
  have hrest := X.split.symm.trans Y.split
  rw [hc, List.append_assoc, List.cons_append] at hrest
  rcases List.append_eq_append_iff.mp (List.cons.inj (List.append_cancel_left hrest)).2 with
    ⟨d, rfl, hd⟩ | ⟨d, hw, hd⟩
  · -- `y` patched after `x` re-read: cut right after the re-read.
    cases d with
    | nil => cases hxy (Label.call.inj (List.cons.inj hd).1).1
    | cons l d =>
      cases (List.cons.inj hd).1
      let tr₁ := X.before ++ .call x (.patch ns name (lockPatch lvX) (.ok ())) ::
        (X.window ++ [.call x (.get ns name (.ok X.reread))])
      have hY : Y.before = tr₁ ++ d := by rw [hc]; simp [tr₁]
      refine ⟨tr₁, X.after, X.split.trans (by simp [tr₁]), ?_, fun e he => ?_⟩
      · rw [X.callsOf_eq]
        simp [tr₁, X.window_quiet]
      · exact Y.before_noPatch e (by rw [hY, callsOf_append]; exact List.mem_append_left _ he)
  · -- `y` patched inside `x`'s window: impossible.
    exfalso
    cases d with
    | nil => cases hxy (Label.call.inj (List.cons.inj hd).1).1.symm
    | cons l d =>
      obtain ⟨rfl, hd⟩ := List.cons.inj hd
      have htr : tr = (X.before ++ .call x (.patch ns name (lockPatch lvX) (.ok ())) :: c) ++
          .call y (.patch ns name (lockPatch lvY) (.ok ())) ::
            (d ++ .call x (.get ns name (.ok X.reread)) :: X.after) :=
        X.split.trans (by rw [hw]; simp)
      obtain ⟨s₁, s₂, _, _, -, hpatch, hrun₂⟩ := Store.Run.split_call (htr ▸ hrun)
      obtain ⟨s₃, s₄, _, _, hrun₃, hget, -⟩ := Store.Run.split_call hrun₂
      cases hpatch with
      | patchFound _ hfound =>
        cases hget with
        | getFound hfind =>
          have hdx : callsOf d x = [] := by
            have := X.window_quiet
            rw [hw] at this
            simp_all [hxy.symm]
          refine Store.Run.lock_ne hE hrun₃ ?_ (by rw [annotation?_patch_lockPatch hfound]; simpa using hlv.symm)
            (by simp [Store.annotation?, hfind, X.reread_lock])
          intro tid p r hm
          have hmem : Label.call tid (.patch ns name p r) ∈ tr := by rw [htr]; simp [hm]
          by_cases htx : tid = x
          · subst htx
            have := mem_callsOf hm
            rw [hdx] at this
            cases this
          by_cases hty : tid = y
          · subst hty
            rw [Y.patch_mem (mem_callsOf hmem)]
            simpa [lockPatch] using hlv
          · have := mem_callsOf hmem
            rw [hothers tid htx hty] at this
            cases this

/-- Once the acquisition has patched, and until another caller calls, the lock
holds its value, in a world that keeps the lock. -/
theorem lock_at_cut (X : Acquisition tr x ns name lvX) (hE : KeepsLockValue ns name E)
    {tr₁ tr₂ : List Label} (htr : tr = tr₁ ++ tr₂) {s₁ : Store} {seen₁ : List Obj}
    (h₁ : Store.Run (fun _ => E) s₀ tr₁ seen₁ s₁) (hpatched : ∃ e ∈ callsOf tr₁ x, e.isPatch = true)
    (hquiet : ∀ tid, tid ≠ x → callsOf tr₁ tid = []) :
    s₁.annotation? ns name prunerLockAnnotation = some lvX := by
  have hbefore : ∀ c, X.before ≠ tr₁ ++ c := fun c hc => by
    obtain ⟨e, he, hp⟩ := hpatched
    exact absurd (X.before_noPatch e (by rw [hc, callsOf_append]; exact List.mem_append_left _ he)) (by simp [hp])
  rcases List.append_eq_append_iff.mp (htr.symm.trans X.split) with ⟨c, hc, -⟩ | ⟨c, rfl, hrest⟩
  · exact (hbefore c hc).elim
  cases c with
  | nil => exact (hbefore [] (by simp)).elim
  | cons l w =>
    obtain ⟨rfl, hw'⟩ := List.cons.inj hrest
    obtain ⟨_, _, _, _, -, hpatch, hw⟩ := Store.Run.split_call h₁
    cases hpatch with
    | patchFound _ hfound =>
      rw [Store.Run.lock_stays hE hw fun tid e hm => ?_, annotation?_patch_lockPatch hfound]
      by_cases htid : tid = x
      · -- the acquisition's only call after its patch is its re-read
        subst htid
        have hmem : e ∈ [Event.get ns name (.ok X.reread)] := by
          have hcalls := congrArg (callsOf · tid) hw'
          simp only [List.append_eq, callsOf_append, callsOf_cons_call_self, X.window_quiet, X.after_quiet,
            List.nil_append] at hcalls
          rw [hcalls]
          exact List.mem_append_left _ (mem_callsOf hm)
        rw [List.mem_singleton.mp hmem]
        exact ⟨rfl, rfl⟩
      · have hw_quiet := hquiet tid htid
        simp only [callsOf_append, callsOf_cons_call_of_ne (Ne.symm htid), List.append_eq_nil] at hw_quiet
        exact absurd (hw_quiet.2 ▸ mem_callsOf hm) (List.not_mem_nil _)

end Acquisition

/-- A `TryLock` by another instance whose snapshot was read after an
acquisition patched, before any call of its own, and whose clock reads less
than `LockTimeout` after that lock time, does not get the lock. -/
theorem later_snapshot_not_acquired {rlA rlB : ResourceLocker} (hid : rlA ≠ rlB) {a b : Nat}
    {snapA snapB : Obj} (hothers : ∀ tid, tid ≠ a → tid ≠ b → callsOf tr tid = [])
    (hA : (rlA.tryLock snapA).Runs (callsOf tr a) (.returned (.ok true)))
    (hE : KeepsLockValue snapA.ns snapA.name E) {tr₁ tr₂ : List Label} (htr : tr = tr₁ ++ tr₂)
    {s₁ : Store} {seen₁ : List Obj} (h₁ : Store.Run (fun _ => E) s₀ tr₁ seen₁ s₁) (hb : callsOf tr₁ b = [])
    {tA nowB : Int}
    (hpatch : Event.patch snapA.ns snapA.name (lockPatch (rlA.lockValueAt tA)) (.ok ()) ∈ callsOf tr₁ a)
    (hsnap : s₁.find? snapA.ns snapA.name = some snapB) (hfirst : (callsOf tr b).head? = some (.now nowB))
    (htime : nowB - tA < lockTimeout) (hascii : IsAscii rlA.instanceID) (hcolon : ':' ∉ rlA.instanceID.data)
    (h0 : 0 ≤ tA) (ht : tA + unixToInternal < 2 ^ 63) :
    ¬ (rlB.tryLock snapB).Runs (callsOf tr b) (.returned (.ok true)) := by
  obtain ⟨tX, ⟨X⟩⟩ := ResourceLocker.tryLock_acquisition hA
  have hlv : rlA.lockValueAt tA = rlA.lockValueAt tX := by
    have := X.patch_mem (show _ ∈ callsOf tr a by rw [htr, callsOf_append]; exact List.mem_append_left _ hpatch)
    simpa [lockPatch] using this
  have hquiet : ∀ tid, tid ≠ a → callsOf tr₁ tid = [] := fun tid hta => by
    by_cases htb : tid = b
    · exact htb ▸ hb
    · have := hothers tid hta htb
      rw [htr, callsOf_append, List.append_eq_nil] at this
      exact this.1
  have hlock := X.lock_at_cut hE htr h₁ ⟨_, hpatch, rfl⟩ hquiet
  have hsnapLock : snapB.annotations.get? prunerLockAnnotation = some (rlA.lockValueAt tA) := by
    rw [hlv]
    simpa [Store.annotation?, hsnap] using hlock
  obtain ⟨es, hcalls⟩ := List.head?_eq_some_iff.mp hfirst
  intro hB
  rw [hcalls] at hB
  cases ((ResourceLocker.tryLock_runs_of_other_valid_lock hascii hcolon h0 ht hid hsnapLock htime).2 _ _ hB).2

/-- Two `TryLock`s by different instances on one resource. Each decides on its
snapshot: one that holds the other instance's lock, checked less than
`LockTimeout` after its lock time, makes `TryLock` give up with no patch. So
when the later call's snapshot is read after the earlier call's patch, in a
world that leaves the lock alone, the later call does not get the lock. And when
both get it, their windows never overlap: one of them has re-read the resource
before the other sends its patch. -/
theorem tryLock_successes_never_overlap {rlA rlB : ResourceLocker} (hid : rlA ≠ rlB) {a b : Nat}
    (hab : a ≠ b) {snapA snapB : Obj} (hns : snapB.ns = snapA.ns) (hname : snapB.name = snapA.name)
    (hE : KeepsLock snapA.ns snapA.name E) (hrun : Store.Run (fun _ => E) s₀ tr seen s)
    (hothers : ∀ tid, tid ≠ a → tid ≠ b → callsOf tr tid = [])
    (hA : (rlA.tryLock snapA).Runs (callsOf tr a) (.returned (.ok true))) :
    (∀ t₀ now, IsAscii rlA.instanceID → ':' ∉ rlA.instanceID.data → 0 ≤ t₀ → t₀ + unixToInternal < 2 ^ 63 →
      snapB.annotations.get? prunerLockAnnotation = some (rlA.lockValueAt t₀) → now - t₀ < lockTimeout →
      (rlB.tryLock snapB).Runs [.now now] (.returned (.ok false)) ∧
        ∀ es o, (rlB.tryLock snapB).Runs (.now now :: es) o → es = [] ∧ o = .returned (.ok false)) ∧
    (∀ tr₁ tr₂ s₁ seen₁ tA nowB, KeepsLockValue snapA.ns snapA.name E → tr = tr₁ ++ tr₂ →
      Store.Run (fun _ => E) s₀ tr₁ seen₁ s₁ → callsOf tr₁ b = [] →
      Event.patch snapA.ns snapA.name (lockPatch (rlA.lockValueAt tA)) (.ok ()) ∈ callsOf tr₁ a →
      s₁.find? snapA.ns snapA.name = some snapB → (callsOf tr b).head? = some (.now nowB) →
      nowB - tA < lockTimeout → IsAscii rlA.instanceID → ':' ∉ rlA.instanceID.data → 0 ≤ tA →
      tA + unixToInternal < 2 ^ 63 → ¬ (rlB.tryLock snapB).Runs (callsOf tr b) (.returned (.ok true))) ∧
    ((rlB.tryLock snapB).Runs (callsOf tr b) (.returned (.ok true)) →
      ∃ tr₁ tr₂, tr = tr₁ ++ tr₂ ∧
        ((callsOf tr₁ a = callsOf tr a ∧ ∀ e ∈ callsOf tr₁ b, e.isPatch = false) ∨
          (callsOf tr₁ b = callsOf tr b ∧ ∀ e ∈ callsOf tr₁ a, e.isPatch = false))) := by
  refine ⟨fun _ _ hascii hcolon h0 ht hlock hnow =>
      ResourceLocker.tryLock_runs_of_other_valid_lock hascii hcolon h0 ht hid hlock hnow,
    fun _ _ _ _ _ _ hkeep htr h₁ hb hpatch hsnap hfirst htime hascii hcolon h0 ht =>
      later_snapshot_not_acquired hid hothers hA hkeep htr h₁ hb hpatch hsnap hfirst htime hascii hcolon h0 ht,
    fun hB => ?_⟩
  obtain ⟨tA, ⟨X⟩⟩ := ResourceLocker.tryLock_acquisition hA
  obtain ⟨tB, ⟨Y⟩⟩ := ResourceLocker.tryLock_acquisition hB
  rw [hns, hname] at Y
  have hlv : rlA.lockValueAt tA ≠ rlB.lockValueAt tB := fun h => hid (lockValueAt_injective h)
  rcases X.patch_order Y hab with hfirst | hfirst
  · obtain ⟨tr₁, tr₂, h, h₁, h₂⟩ := X.reread_before_patch Y hab hlv hE hrun hothers hfirst
    exact ⟨tr₁, tr₂, h, .inl ⟨h₁, h₂⟩⟩
  · obtain ⟨tr₁, tr₂, h, h₁, h₂⟩ := Y.reread_before_patch X hab.symm hlv.symm hE hrun
      (fun tid hb ha => hothers tid ha hb) hfirst
    exact ⟨tr₁, tr₂, h, .inr ⟨h₁, h₂⟩⟩

end Interleaving

-- ---------------------------------------------------------------------------
-- Two instances on one run
-- ---------------------------------------------------------------------------

def lockTarget (lock : Option String) : Obj :=
  { ns := "ns", name := "build-1", creationTimestamp := 0, status := .succeeded, labels := [],
    annotations := lock.toList.map fun v => ( prunerLockAnnotation, v) }

def lockStore (lock : Option String) : Store := ⟨[lockTarget lock], List.nodup_singleton _⟩

def lockerA : ResourceLocker := ⟨"pruner-a"⟩

def lockerB : ResourceLocker := ⟨"pruner-b"⟩

/-- Both callers hold snapshots read before either patch; each then patches and
re-reads in turn. -/
def staleTrace : List Label :=
  [.call 0 (.now 0), .call 0 (.patch "ns" "build-1" (lockPatch "pruner-a:0") (.ok ())),
    .call 0 (.get "ns" "build-1" (.ok (lockTarget (some "pruner-a:0")))),
    .call 1 (.now 0), .call 1 (.patch "ns" "build-1" (lockPatch "pruner-b:0") (.ok ())),
    .call 1 (.get "ns" "build-1" (.ok (lockTarget (some "pruner-b:0"))))]

theorem staleTrace_run : ∃ s seen, Store.Run (fun _ _ _ => False) (lockStore none) staleTrace seen s :=
  ⟨_, Store.Run.cons (.now _ 0) <| Store.Run.cons (.patchFound _ rfl) <| Store.Run.cons (.getFound rfl) <|
    Store.Run.cons (.now _ 0) <| Store.Run.cons (.patchFound _ rfl) <| Store.Run.cons (.getFound rfl) <|
      ⟨_, .nil _⟩⟩

theorem staleTrace_acquired :
    (lockerA.tryLock (lockTarget none)).Runs (callsOf staleTrace 0) (.returned (.ok true)) ∧
      (lockerB.tryLock (lockTarget none)).Runs (callsOf staleTrace 1) (.returned (.ok true)) :=
  ⟨rfl, rfl⟩

/-- Two instances whose snapshots, taken from the store before either patch, show
no lock: both `TryLock`s return `(true, nil)`. -/
theorem stale_snapshots_both_acquire :
    (lockStore none).find? "ns" "build-1" = some (lockTarget none) ∧
      ∃ s seen, Store.Run (fun _ _ _ => False) (lockStore none) staleTrace seen s ∧
        (lockerA.tryLock (lockTarget none)).Runs (callsOf staleTrace 0) (.returned (.ok true)) ∧
        (lockerB.tryLock (lockTarget none)).Runs (callsOf staleTrace 1) (.returned (.ok true)) :=
  let ⟨s, seen, hrun⟩ := staleTrace_run
  ⟨rfl, s, seen, hrun, staleTrace_acquired⟩

/-- Instance A gets the lock; instance B's snapshot is read after A's patch, and
B checks it ten seconds later. -/
def checkedTrace : List Label :=
  [.call 0 (.now 0), .call 0 (.patch "ns" "build-1" (lockPatch "pruner-a:0") (.ok ())),
    .call 0 (.get "ns" "build-1" (.ok (lockTarget (some "pruner-a:0")))), .call 1 (.now 10)]

theorem lock_contention_runs :
    (∃ tr₁ tr₂, staleTrace = tr₁ ++ tr₂ ∧
      ((callsOf tr₁ 0 = callsOf staleTrace 0 ∧ ∀ e ∈ callsOf tr₁ 1, e.isPatch = false) ∨
        (callsOf tr₁ 1 = callsOf staleTrace 1 ∧ ∀ e ∈ callsOf tr₁ 0, e.isPatch = false))) ∧
    (lockerB.tryLock (lockTarget (some "pruner-a:0"))).Runs [.now 10] (.returned (.ok false)) ∧
    ¬ (lockerB.tryLock (lockTarget (some "pruner-a:0"))).Runs (callsOf checkedTrace 1) (.returned (.ok true)) :=
  let ⟨_, _, hstale⟩ := staleTrace_run
  have hchecked : ∃ seen, Store.Run (fun _ _ _ => False) (lockStore none) checkedTrace seen
      ((lockStore none).patch "ns" "build-1" (lockPatch "pruner-a:0")) :=
    Store.Run.cons (.now _ 0) <| Store.Run.cons (.patchFound _ rfl) <| Store.Run.cons (.getFound rfl) <|
      Store.Run.cons (.now _ 10) ⟨_, .nil _⟩
  have hprefix : ∃ seen, Store.Run (fun _ _ _ => False) (lockStore none) (checkedTrace.take 3) seen
      ((lockStore none).patch "ns" "build-1" (lockPatch "pruner-a:0")) :=
    Store.Run.cons (.now _ 0) <| Store.Run.cons (.patchFound _ rfl) <| Store.Run.cons (.getFound rfl) ⟨_, .nil _⟩
  let ⟨_, hrun⟩ := hchecked
  let ⟨_, h₁⟩ := hprefix
  have hothers : ∀ tr : List Label, tr = staleTrace ∨ tr = checkedTrace →
      ∀ tid, tid ≠ 0 → tid ≠ 1 → callsOf tr tid = [] := by
    rintro tr (rfl | rfl) tid h0 h1 <;> simp [staleTrace, checkedTrace, callsOf, Ne.symm h0, Ne.symm h1]
  have hchecks := tryLock_successes_never_overlap (by decide) (by decide)
    (show (lockTarget (some "pruner-a:0")).ns = (lockTarget none).ns from rfl) rfl (fun _ _ _ h => h.elim) hrun
    (hothers _ (.inr rfl)) (show (lockerA.tryLock (lockTarget none)).Runs (callsOf checkedTrace 0)
      (.returned (.ok true)) from rfl)
  ⟨(tryLock_successes_never_overlap (by decide) (by decide) rfl rfl (fun _ _ _ h => h.elim) hstale
      (hothers _ (.inl rfl)) staleTrace_acquired.1).2.2 staleTrace_acquired.2,
    (hchecks.1 0 10 (by decide) (by decide) le_rfl (by decide) rfl (by decide)).1,
    hchecks.2.1 (checkedTrace.take 3) [.call 1 (.now 10)] _ _ 0 10 (fun _ _ h => h.elim) rfl h₁ rfl
      (.tail _ (.head _)) rfl rfl (by decide) (by decide) (by decide) le_rfl (by decide)⟩

-- ---------------------------------------------------------------------------
-- Release
-- ---------------------------------------------------------------------------

/-- `ReleaseLock` decides on its snapshot alone: when the snapshot's lock is its
own it sends exactly one `null` patch, whatever that answers, and otherwise no
call at all; and the `null` patch, when it lands, leaves no lock on the
resource, whoever held it. -/
theorem releaseLock_clears_whatever_is_stored (rl : ResourceLocker) (resource : Obj) :
    ((∃ v, resource.annotations.get? prunerLockAnnotation = some v ∧ rl.isOwnedByMe v = true) →
      ∀ es o, (rl.releaseLock resource).Runs es o ↔
        ∃ r, es = [.patch resource.ns resource.name unlockPatch r] ∧ o = .returned r) ∧
    ((¬ ∃ v, resource.annotations.get? prunerLockAnnotation = some v ∧ rl.isOwnedByMe v = true) →
      ∀ es o, (rl.releaseLock resource).Runs es o ↔ es = [] ∧ o = .returned (.ok ())) ∧
    ∀ s s' : Store, s.Answers (.patch resource.ns resource.name unlockPatch (.ok ())) s' →
      s'.annotation? resource.ns resource.name prunerLockAnnotation = none :=
  ⟨fun ⟨_, hv, hown⟩ _ _ => ResourceLocker.releaseLock_runs_of_owned hv hown,
    fun hnot _ _ => ResourceLocker.releaseLock_runs_of_not_owned hnot,
    fun s _ hans => by cases hans with | patchFound _ _ => exact annotation?_patch_unlockPatch s _ _⟩

theorem release_of_own_lock_clears :
    (lockerA.releaseLock (lockTarget (some "pruner-a:0"))).Runs [.patch "ns" "build-1" unlockPatch (.ok ())]
        (.returned (.ok ())) ∧
      (lockerB.releaseLock (lockTarget (some "pruner-a:0"))).Runs [] (.returned (.ok ())) ∧
      ((lockStore (some "pruner-b:400")).patch "ns" "build-1" unlockPatch).annotation? "ns" "build-1"
        prunerLockAnnotation = none :=
  have hA := releaseLock_clears_whatever_is_stored lockerA (lockTarget (some "pruner-a:0"))
  have hB := releaseLock_clears_whatever_is_stored lockerB (lockTarget (some "pruner-a:0"))
  ⟨(hA.1 ⟨_, rfl, by decide⟩ _ _).mpr ⟨_, rfl, rfl⟩,
    (hB.2.1 (fun ⟨v, hv, hown⟩ => by
      obtain rfl : "pruner-a:0" = v := Option.some.inj hv
      exact absurd hown (by decide)) _ _).mpr ⟨rfl, rfl⟩,
    hA.2.2 _ _ (.patchFound _ rfl)⟩

/-- Instance B takes over A's lock once it has expired; A then releases with its
old snapshot, and its `null` patch removes B's lock while B holds it. -/
def releaseTrace : List Label :=
  [.call 1 (.now 400), .call 1 (.now 400),
    .call 1 (.patch "ns" "build-1" (lockPatch "pruner-b:400") (.ok ())),
    .call 1 (.get "ns" "build-1" (.ok (lockTarget (some "pruner-b:400")))),
    .call 0 (.patch "ns" "build-1" unlockPatch (.ok ()))]

theorem releaseTrace_run :
    ∃ seen, Store.Run (fun _ _ _ => False) (lockStore (some "pruner-a:0")) releaseTrace seen
      (((lockStore (some "pruner-a:0")).patch "ns" "build-1" (lockPatch "pruner-b:400")).patch
        "ns" "build-1" unlockPatch) :=
  Store.Run.cons (.now _ 400) <| Store.Run.cons (.now _ 400) <| Store.Run.cons (.patchFound _ rfl) <|
    Store.Run.cons (.getFound rfl) <| Store.Run.cons (.patchFound _ rfl) <| ⟨_, .nil _⟩

theorem release_removes_other_instances_lock :
    ∃ s seen, Store.Run (fun _ _ _ => False) (lockStore (some "pruner-a:0")) releaseTrace seen s ∧
      (lockerB.tryLock (lockTarget (some "pruner-a:0"))).Runs (callsOf releaseTrace 1) (.returned (.ok true)) ∧
      (lockerA.releaseLock (lockTarget (some "pruner-a:0"))).Runs (callsOf releaseTrace 0)
        (.returned (.ok ())) ∧
      s.annotation? "ns" "build-1" prunerLockAnnotation = none :=
  let ⟨seen, hrun⟩ := releaseTrace_run
  ⟨_, seen, hrun, rfl, rfl, rfl⟩

end TektonPruner
