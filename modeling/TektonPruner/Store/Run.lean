import TektonPruner.Store.Prog

/-!
# The cluster answering calls

`s.Answers e s'`: the cluster in state `s` can answer the call recorded in
`e` as `e` records, and is then in state `s'`. A `Get` returns the stored
object; a `Patch` merges into the stored annotations; a `Delete` removes the
object; a `List` returns the selected objects in any order; a missing object
is `NotFound`. Any call may also fail with another error, and a failed
`Patch` or `Delete` may or may not have taken effect. The clock may read any
time.

A run of several callers is one list of labelled steps: a call by caller
`tid`, or a step of the rest of the world (`env`), whose effect each use
chooses. `Store.Run` follows the store along the labels and collects every
object it ever held; `callsOf tr tid` is caller `tid`'s own view, to be fed to
its program.
-/

namespace TektonPruner

namespace Store

inductive Answers : Store → Event → Store → Prop
  | now (s : Store) (t : Int) : Answers s (.now t) s
  | getFound {s : Store} {ns name : String} {o : Obj} (h : s.find? ns name = some o) :
      Answers s (.get ns name (.ok o)) s
  | getMissing {s : Store} {ns name : String} (h : s.find? ns name = none) :
      Answers s (.get ns name (.error .notFound)) s
  | getFailed (s : Store) (ns name reason : String) :
      Answers s (.get ns name (.error (.other reason))) s
  | patchFound {s : Store} {ns name : String} (p : AnnotationPatch) (h : (s.find? ns name).isSome) :
      Answers s (.patch ns name p (.ok ())) (s.patch ns name p)
  | patchMissing {s : Store} {ns name : String} (p : AnnotationPatch) (h : s.find? ns name = none) :
      Answers s (.patch ns name p (.error .notFound)) s
  | patchFailed (s : Store) (ns name : String) (p : AnnotationPatch) (reason : String) :
      Answers s (.patch ns name p (.error (.other reason))) s
  | patchFailedApplied (s : Store) (ns name : String) (p : AnnotationPatch) (reason : String) :
      Answers s (.patch ns name p (.error (.other reason))) (s.patch ns name p)
  | deleteFound {s : Store} {ns name : String} (h : (s.find? ns name).isSome) :
      Answers s (.delete ns name (.ok ())) (s.erase ns name)
  | deleteMissing {s : Store} {ns name : String} (h : s.find? ns name = none) :
      Answers s (.delete ns name (.error .notFound)) s
  | deleteFailed (s : Store) (ns name reason : String) :
      Answers s (.delete ns name (.error (.other reason))) s
  | deleteFailedApplied (s : Store) (ns name reason : String) :
      Answers s (.delete ns name (.error (.other reason))) (s.erase ns name)
  | listed {s : Store} {ns key value : String} {os : List Obj} (h : os.Perm (s.selected ns key value)) :
      Answers s (.list ns key value (.ok os)) s
  | listFailed (s : Store) (ns key value reason : String) :
      Answers s (.list ns key value (.error (.other reason))) s

/-- Only a patch that sets annotation `k` of `ns/name` to `v` makes it read `v`:
nothing else the cluster does to the object, or to another, can. -/
theorem Answers.annotation?_ne {s s' : Store} {e : Event} (h : s.Answers e s') {ns name k v : String}
    (hnot : ∀ p r, e = .patch ns name p r → (k, some v) ∉ p)
    (hs : s.annotation? ns name k ≠ some v) : s'.annotation? ns name k ≠ some v := by
  have patched : ∀ (ns' name' : String) (p : AnnotationPatch) (r : Except StatusError Unit),
      e = .patch ns' name' p r → (s.patch ns' name' p).annotation? ns name k ≠ some v := by
    intro ns' name' p r he
    by_cases hkey : (ns, name) = (ns', name')
    · obtain ⟨rfl, rfl⟩ := Prod.mk.inj hkey
      rw [annotation?_patch]
      intro hv
      obtain ⟨o, ho, hget⟩ := Option.bind_eq_some.mp hv
      rcases StringMap.get?_mergePatch_eq_some hget with hp | ho'
      · exact hnot p r he hp
      · exact hs (by simp [annotation?, ho, ho'])
    · rwa [annotation?_patch_of_ne _ _ hkey]
  cases h with
  | patchFound p _ => exact patched _ _ p _ rfl
  | patchFailedApplied _ _ p _ => exact patched _ _ p _ rfl
  | deleteFound _ | deleteFailedApplied =>
    simp only [annotation?, find?_erase]
    split_ifs
    · simp
    · exact hs
  | _ => exact hs

theorem Answers.find?_eq_none {s s' : Store} {e : Event} (h : s.Answers e s') {ns name : String}
    (hs : s.find? ns name = none) : s'.find? ns name = none := by
  cases h <;> simp_all [find?_patch, find?_erase]

/-- A call that is not a patch changes no annotation: the object keeps them, or is gone. -/
theorem Answers.annotation?_of_not_patch {s s' : Store} {e : Event} (h : s.Answers e s')
    (he : e.isPatch = false) {ns name k v : String} (hs : s.annotation? ns name k = some v) :
    s'.annotation? ns name k = some v ∨ s'.find? ns name = none := by
  cases h with
  | patchFound | patchMissing | patchFailed | patchFailedApplied => cases he
  | deleteFound _ | deleteFailedApplied =>
    simp only [find?_erase, annotation?]
    split_ifs
    · exact .inr rfl
    · exact .inl hs
  | _ => exact .inl hs

/-- A call that neither patches nor deletes leaves the store as it is. -/
theorem Answers.eq_of_read {s s' : Store} {e : Event} (h : s.Answers e s') (hp : e.isPatch = false)
    (hd : e.deleted? = none) : s' = s := by
  cases h with
  | patchFound | patchMissing | patchFailed | patchFailedApplied => cases hp
  | deleteFound _ | deleteMissing _ | deleteFailed | deleteFailedApplied => cases hd
  | _ => rfl

theorem Answers.list_eq {s s' : Store} {ns key value : String} {r : Except StatusError (List Obj)}
    (h : s.Answers (.list ns key value r) s') : s' = s := by
  cases h <;> rfl

/-- A `Delete` of `ns/name` removes that object or nothing. -/
theorem Answers.delete_objs {s s' : Store} {ns name : String} {r : Except StatusError Unit}
    (h : s.Answers (.delete ns name r) s') :
    (∀ o ∈ s'.objs, o ∈ s.objs) ∧ ∀ o ∈ s.objs, o ∉ s'.objs → o.key = (ns, name) := by
  have erased : (∀ o ∈ (s.erase ns name).objs, o ∈ s.objs) ∧
      ∀ o ∈ s.objs, o ∉ (s.erase ns name).objs → o.key = (ns, name) :=
    ⟨fun _ ho => (mem_erase_objs.mp ho).1, fun _ ho hnot => by_contra fun hne => hnot (mem_erase_objs.mpr ⟨ho, hne⟩)⟩
  cases h with
  | deleteFound _ | deleteFailedApplied => exact erased
  | deleteMissing _ | deleteFailed => exact ⟨fun _ h => h, fun _ h h' => absurd h h'⟩

end Store

inductive Label
  | call (tid : Nat) (e : Event)
  | env

def callsOf (tr : List Label) (tid : Nat) : List Event :=
  tr.filterMap fun
    | .call j e => if j = tid then some e else none
    | .env => none

@[simp] theorem callsOf_nil (tid : Nat) : callsOf [] tid = [] := rfl

@[simp] theorem callsOf_append (tr tr' : List Label) (tid : Nat) :
    callsOf (tr ++ tr') tid = callsOf tr tid ++ callsOf tr' tid := by
  simp [callsOf, List.filterMap_append]

@[simp] theorem callsOf_call_self (tid : Nat) (e : Event) : callsOf [.call tid e] tid = [e] := by
  simp [callsOf]

@[simp] theorem callsOf_call_of_ne {tid j : Nat} (h : j ≠ tid) (e : Event) :
    callsOf [.call j e] tid = [] := by
  simp [callsOf, h]

@[simp] theorem callsOf_env (tid : Nat) : callsOf [.env] tid = [] := rfl

theorem callsOf_cons (l : Label) (tr : List Label) (tid : Nat) :
    callsOf (l :: tr) tid = callsOf [l] tid ++ callsOf tr tid :=
  callsOf_append [l] tr tid

@[simp] theorem callsOf_cons_call_self (tid : Nat) (e : Event) (tr : List Label) :
    callsOf (.call tid e :: tr) tid = e :: callsOf tr tid := by
  simp [callsOf]

@[simp] theorem callsOf_cons_call_of_ne {tid j : Nat} (h : j ≠ tid) (e : Event) (tr : List Label) :
    callsOf (.call j e :: tr) tid = callsOf tr tid := by
  simp [callsOf, h]

@[simp] theorem callsOf_cons_env (tr : List Label) (tid : Nat) : callsOf (.env :: tr) tid = callsOf tr tid := rfl

theorem mem_callsOf {tr : List Label} {tid : Nat} {e : Event} (h : Label.call tid e ∈ tr) :
    e ∈ callsOf tr tid :=
  List.mem_filterMap.mpr ⟨_, h, by simp⟩

/-- Where a caller's call sits in the interleaving, with the caller's calls before and after it. -/
theorem exists_split_of_callsOf_eq {tid : Nat} {e : Event} :
    ∀ {tr : List Label} {xs ys : List Event}, callsOf tr tid = xs ++ e :: ys →
      ∃ tr₁ tr₂, tr = tr₁ ++ .call tid e :: tr₂ ∧ callsOf tr₁ tid = xs ∧ callsOf tr₂ tid = ys
  | [], xs, _, h => by cases xs <;> simp at h
  | l :: tr, xs, ys, h => by
    have hsplit : ∀ {xs'}, callsOf tr tid = xs' ++ e :: ys → callsOf [l] tid ++ xs' = xs →
        ∃ tr₁ tr₂, l :: tr = tr₁ ++ .call tid e :: tr₂ ∧ callsOf tr₁ tid = xs ∧ callsOf tr₂ tid = ys :=
      fun h' hxs => by
        obtain ⟨tr₁, tr₂, rfl, h₁, h₂⟩ := exists_split_of_callsOf_eq h'
        exact ⟨l :: tr₁, tr₂, rfl, by rw [callsOf_cons, h₁, hxs], h₂⟩
    rw [callsOf_cons] at h
    rcases l with ⟨j, e'⟩ | _
    · by_cases hj : j = tid
      · subst hj
        rw [callsOf_call_self] at h
        cases xs with
        | nil =>
          obtain ⟨rfl, rfl⟩ := List.cons.inj h
          exact ⟨[], tr, rfl, rfl, rfl⟩
        | cons x xs =>
          obtain ⟨rfl, h'⟩ := List.cons.inj h
          exact hsplit h' (by simp)
      · rw [callsOf_call_of_ne hj, List.nil_append] at h
        exact hsplit h (by simp [hj])
    · rw [callsOf_env, List.nil_append] at h
      exact hsplit h (by simp)

/-- `Store.Run Env s tr seen s'`: from `s`, the labelled steps `tr` can happen and
leave `s'`; `seen` lists every object held along the way. `Env seen s s'` is what
the rest of the world may do, knowing what has been seen so far. -/
inductive Store.Run (Env : List Obj → Store → Store → Prop) :
    Store → List Label → List Obj → Store → Prop
  | nil (s : Store) : Run Env s [] s.objs s
  | call {s₀ s s' : Store} {tr : List Label} {seen : List Obj} (tid : Nat) {e : Event} :
      Run Env s₀ tr seen s → s.Answers e s' → Run Env s₀ (tr ++ [.call tid e]) (seen ++ s'.objs) s'
  | env {s₀ s s' : Store} {tr : List Label} {seen : List Obj} :
      Run Env s₀ tr seen s → Env seen s s' → Run Env s₀ (tr ++ [.env]) (seen ++ s'.objs) s'

namespace Store.Run

variable {Env : List Obj → Store → Store → Prop} {s₀ s : Store} {seen : List Obj}

/-- A property every step keeps holds at the end of a run. -/
theorem invariant {P : Store → Prop} {tr : List Label} (hrun : Run Env s₀ tr seen s)
    (hcall : ∀ tid e s s', Label.call tid e ∈ tr → P s → s.Answers e s' → P s')
    (henv : ∀ seen s s', Env seen s s' → P s → P s') (h₀ : P s₀) : P s := by
  induction hrun with
  | nil => exact h₀
  | call tid _ hans ih =>
    exact hcall tid _ _ _ (by simp) (ih fun t e a b hm => hcall t e a b (by simp [hm])) hans
  | env _ henv' ih => exact henv _ _ _ henv' (ih fun t e a b hm => hcall t e a b (by simp [hm]))

/-- A run of `tr₁ ++ tr₂` passes through a state where `tr₁` has happened. The
rest of the world must not depend on what was seen, as the two halves see
different things. -/
theorem split {E : Store → Store → Prop} {tr₁ tr₂ : List Label}
    (h : Run (fun _ => E) s₀ (tr₁ ++ tr₂) seen s) :
    ∃ s₁ seen₁ seen₂, Run (fun _ => E) s₀ tr₁ seen₁ s₁ ∧ Run (fun _ => E) s₁ tr₂ seen₂ s := by
  generalize htr : tr₁ ++ tr₂ = tr at h
  induction h generalizing tr₂ with
  | nil =>
    obtain ⟨rfl, rfl⟩ := List.append_eq_nil.mp htr
    exact ⟨_, _, _, .nil _, .nil _⟩
  | call tid hrun hans ih =>
    rcases List.eq_nil_or_concat tr₂ with rfl | ⟨L, b, rfl⟩
    · rw [List.append_nil] at htr
      subst htr
      exact ⟨_, _, _, .call tid hrun hans, .nil _⟩
    · rw [List.concat_eq_append, ← List.append_assoc] at htr
      obtain ⟨rfl, hb⟩ := List.append_inj' htr.symm rfl
      obtain ⟨s₁, seen₁, seen₂, h₁, h₂⟩ := ih rfl
      cases List.cons.inj hb |>.1
      exact ⟨s₁, seen₁, _, h₁, by simpa using Run.call tid h₂ hans⟩
  | env hrun henv ih =>
    rcases List.eq_nil_or_concat tr₂ with rfl | ⟨L, b, rfl⟩
    · rw [List.append_nil] at htr
      subst htr
      exact ⟨_, _, _, .env hrun henv, .nil _⟩
    · rw [List.concat_eq_append, ← List.append_assoc] at htr
      obtain ⟨rfl, hb⟩ := List.append_inj' htr.symm rfl
      obtain ⟨s₁, seen₁, seen₂, h₁, h₂⟩ := ih rfl
      cases List.cons.inj hb |>.1
      exact ⟨s₁, seen₁, _, h₁, by simpa using (Run.env h₂ henv : Run (fun _ => E) _ _ _ _)⟩

theorem of_snoc_call {tr : List Label} {tid : Nat} {e : Event} (h : Run Env s₀ (tr ++ [.call tid e]) seen s) :
    ∃ s₁ seen₁, Run Env s₀ tr seen₁ s₁ ∧ s₁.Answers e s := by
  generalize htr : tr ++ [Label.call tid e] = tr' at h
  cases h with
  | nil => simp at htr
  | call _ hrun hans =>
    obtain ⟨rfl, hl⟩ := List.append_inj' htr.symm rfl
    cases hl
    exact ⟨_, _, hrun, hans⟩
  | env _ _ =>
    obtain ⟨-, hl⟩ := List.append_inj' htr.symm rfl
    cases hl

/-- A run through a call passes through the states just before and after it. -/
theorem split_call {E : Store → Store → Prop} {tr₁ tr₂ : List Label} {tid : Nat} {e : Event}
    (h : Run (fun _ => E) s₀ (tr₁ ++ .call tid e :: tr₂) seen s) :
    ∃ s₁ s₂ seen₁ seen₂, Run (fun _ => E) s₀ tr₁ seen₁ s₁ ∧ s₁.Answers e s₂ ∧
      Run (fun _ => E) s₂ tr₂ seen₂ s := by
  rw [← List.singleton_append, ← List.append_assoc] at h
  obtain ⟨s₂, seen', seen₂, h₁, h₂⟩ := split h
  obtain ⟨s₁, seen₁, h₀, hans⟩ := of_snoc_call h₁
  exact ⟨s₁, s₂, seen₁, seen₂, h₀, hans, h₂⟩

theorem append {E : Store → Store → Prop} {s₁ : Store} {tr₁ tr₂ : List Label} {seen₁ seen₂ : List Obj}
    (h₁ : Run (fun _ => E) s₀ tr₁ seen₁ s₁) (h₂ : Run (fun _ => E) s₁ tr₂ seen₂ s) :
    ∃ seen, Run (fun _ => E) s₀ (tr₁ ++ tr₂) seen s := by
  induction h₂ with
  | nil => exact ⟨seen₁, by simpa using h₁⟩
  | call tid _ hans ih =>
    obtain ⟨seen, h⟩ := ih
    exact ⟨_, by simpa using h.call tid hans⟩
  | env _ henv ih =>
    obtain ⟨seen, h⟩ := ih
    exact ⟨_, by simpa using (h.env henv : Run (fun _ => E) _ _ _ _)⟩

theorem cons {E : Store → Store → Prop} {s₁ : Store} {tr : List Label} {tid : Nat} {e : Event}
    (h : s₀.Answers e s₁) (hrun : ∃ seen, Run (fun _ => E) s₁ tr seen s) :
    ∃ seen, Run (fun _ => E) s₀ (.call tid e :: tr) seen s := by
  obtain ⟨seen, hrun⟩ := hrun
  simpa using append (by simpa using (Run.nil s₀).call tid h) hrun

end Store.Run

end TektonPruner
