import TektonPruner.Store.Object

/-!
# Programs that call the cluster

Every function of the pruner that touches the cluster is a `Prog`: it
returns, panics, or makes one call of `HistoryLimiterResourceFuncs` /
`ResourcePatchFuncs` (or reads the clock) and continues with the answer. An
`Event` records one call with its answer. `p.feed es` is what is left of `p`
once the calls recorded in `es` have been answered; `p.Runs es o` says that
`p` makes exactly those calls and ends with `o`.

Nothing here says what the cluster answers: that is the store's side
(`Store.Answers`), so one program can be run alone against any answers, or
interleaved with others against one store.
-/

namespace TektonPruner

/-- The errors of the store calls; `errors.IsNotFound` recognises `notFound`. -/
inductive StatusError
  | notFound
  | other (reason : String)
  deriving DecidableEq, Repr

inductive Prog (α : Type) where
  | ret (a : α)
  | panic (msg : String)
  | now (k : Int → Prog α)
  | get (ns name : String) (k : Except StatusError Obj → Prog α)
  | patch (ns name : String) (p : AnnotationPatch) (k : Except StatusError Unit → Prog α)
  | delete (ns name : String) (k : Except StatusError Unit → Prog α)
  | list (ns key value : String) (k : Except StatusError (List Obj) → Prog α)

inductive Event where
  | now (t : Int)
  | get (ns name : String) (r : Except StatusError Obj)
  | patch (ns name : String) (p : AnnotationPatch) (r : Except StatusError Unit)
  | delete (ns name : String) (r : Except StatusError Unit)
  | list (ns key value : String) (r : Except StatusError (List Obj))

inductive Outcome (α : Type) where
  | returned (a : α)
  | panicked (msg : String)

/-- The program that has finished with `o`. -/
def Outcome.prog {α : Type} : Outcome α → Prog α
  | .returned a => .ret a
  | .panicked m => .panic m

/-- The object a `Delete` call names. -/
def Event.deleted? : Event → Option (String × String)
  | .delete ns name _ => some (ns, name)
  | _ => none

/-- The objects named by a run's `Delete` calls, in order. -/
def deletesOf (es : List Event) : List (String × String) := es.filterMap Event.deleted?

@[simp] theorem deletesOf_nil : deletesOf [] = [] := rfl

@[simp] theorem deletesOf_cons_delete (ns name : String) (r : Except StatusError Unit)
    (es : List Event) : deletesOf (.delete ns name r :: es) = (ns, name) :: deletesOf es := rfl

/-- The call is a `Patch`. -/
def Event.isPatch : Event → Bool
  | .patch .. => true
  | _ => false

/-- A `Delete` answered with success or with not-found. -/
def Event.Tolerated : Event → Prop
  | .delete _ _ (.ok ()) => True
  | .delete _ _ (.error .notFound) => True
  | _ => False

namespace Prog

variable {α β : Type}

def bind : Prog α → (α → Prog β) → Prog β
  | ret a, f => f a
  | panic m, _ => panic m
  | now k, f => now fun t => (k t).bind f
  | get ns name k, f => get ns name fun r => (k r).bind f
  | patch ns name p k, f => patch ns name p fun r => (k r).bind f
  | delete ns name k, f => delete ns name fun r => (k r).bind f
  | list ns key value k, f => list ns key value fun r => (k r).bind f

instance : Monad Prog where
  pure := ret
  bind := bind

/-- The program once its pending call is answered as `e` records, if `e` is that call. -/
def next : Prog α → Event → Option (Prog α)
  | now k, .now t => some (k t)
  | get ns name k, .get ns' name' r => if ns' = ns ∧ name' = name then some (k r) else none
  | patch ns name p k, .patch ns' name' p' r =>
    if ns' = ns ∧ name' = name ∧ p' = p then some (k r) else none
  | delete ns name k, .delete ns' name' r => if ns' = ns ∧ name' = name then some (k r) else none
  | list ns key value k, .list ns' key' value' r =>
    if ns' = ns ∧ key' = key ∧ value' = value then some (k r) else none
  | _, _ => none

def feed : Prog α → List Event → Option (Prog α)
  | p, [] => some p
  | p, e :: es => (p.next e).bind fun q => q.feed es

def Runs (p : Prog α) (es : List Event) (o : Outcome α) : Prop := p.feed es = some o.prog

@[simp] theorem feed_nil (p : Prog α) : p.feed [] = some p := rfl

theorem feed_cons (p : Prog α) (e : Event) (es : List Event) :
    p.feed (e :: es) = (p.next e).bind fun q => q.feed es := rfl

theorem feed_append (p : Prog α) (es es' : List Event) :
    p.feed (es ++ es') = (p.feed es).bind fun q => q.feed es' := by
  induction es generalizing p with
  | nil => rfl
  | cons e es ih => cases h : p.next e <;> simp [feed_cons, h, ih]

@[simp] theorem next_ret (a : α) (e : Event) : (ret a).next e = none := rfl

@[simp] theorem next_panic (m : String) (e : Event) : (panic m : Prog α).next e = none := rfl

@[simp] theorem ret_bind (a : α) (f : α → Prog β) : (ret a).bind f = f a := rfl

@[simp] theorem panic_bind (m : String) (f : α → Prog β) : (panic m).bind f = panic m := rfl

theorem next_bind_of_ne_ret {p : Prog α} (hp : ∀ a, p ≠ ret a) (f : α → Prog β) (e : Event) :
    (p.bind f).next e = (p.next e).map (·.bind f) := by
  cases p with
  | ret a => exact absurd rfl (hp a)
  | _ => cases e <;> simp only [bind, next, Option.map_some', Option.map_none'] <;> split <;> rfl

/-- A call of `p` is the same call of `p.bind f`. -/
theorem next_bind {p q : Prog α} {e : Event} (h : p.next e = some q) (f : α → Prog β) :
    (p.bind f).next e = some (q.bind f) := by
  rw [next_bind_of_ne_ret (fun a ha => by simp [ha] at h) f e, h]
  rfl

theorem feed_bind {p q : Prog α} {es : List Event} (h : p.feed es = some q) (f : α → Prog β) :
    (p.bind f).feed es = some (q.bind f) := by
  induction es generalizing p with
  | nil => cases h; rfl
  | cons e es ih =>
    rw [feed_cons] at h
    obtain ⟨p', hp', hq⟩ := Option.bind_eq_some.mp h
    rw [feed_cons, next_bind hp' f]
    exact ih hq

theorem Outcome.prog_injective {o o' : Outcome α} (h : o.prog = o'.prog) : o = o' := by
  cases o <;> cases o' <;> simp_all [Outcome.prog]

theorem runs_ret_iff {a : α} {es : List Event} {o : Outcome α} :
    (ret a).Runs es o ↔ es = [] ∧ o = .returned a := by
  cases es with
  | nil => exact ⟨fun h => ⟨rfl, Outcome.prog_injective (Option.some.inj h).symm⟩, fun ⟨_, h⟩ => h ▸ rfl⟩
  | cons e es => simp [Runs, feed_cons]

theorem runs_panic_iff {m : String} {es : List Event} {o : Outcome α} :
    (panic m).Runs es o ↔ es = [] ∧ o = .panicked m := by
  cases es with
  | nil => exact ⟨fun h => ⟨rfl, Outcome.prog_injective (Option.some.inj h).symm⟩, fun ⟨_, h⟩ => h ▸ rfl⟩
  | cons e es => simp [Runs, feed_cons]

theorem runs_cons_iff {p : Prog α} {e : Event} {es : List Event} {o : Outcome α} :
    p.Runs (e :: es) o ↔ ∃ q, p.next e = some q ∧ q.Runs es o := by
  simp [Runs, feed_cons, Option.bind_eq_some]

/-- The runs of a call: the node takes exactly the events `ev r`, and continues with `k r`. -/
theorem runs_iff_of_next {β : Type} {p : Prog α} {ev : β → Event} {k : β → Prog α}
    (hnil : ∀ o : Outcome α, p ≠ o.prog) (hnext : ∀ e q, p.next e = some q ↔ ∃ r, e = ev r ∧ k r = q)
    {es : List Event} {o : Outcome α} :
    p.Runs es o ↔ ∃ r es', es = ev r :: es' ∧ (k r).Runs es' o := by
  cases es with
  | nil => simpa [Runs] using hnil o
  | cons e es =>
    rw [runs_cons_iff]
    constructor
    · rintro ⟨q, hq, h⟩
      obtain ⟨r, rfl, rfl⟩ := (hnext e q).mp hq
      exact ⟨r, es, rfl, h⟩
    · rintro ⟨r, es', he, h⟩
      obtain ⟨rfl, rfl⟩ := List.cons.inj he
      exact ⟨k r, (hnext _ _).mpr ⟨r, rfl, rfl⟩, h⟩

theorem runs_now_iff {k : Int → Prog α} {es : List Event} {o : Outcome α} :
    (now k).Runs es o ↔ ∃ t es', es = .now t :: es' ∧ (k t).Runs es' o :=
  runs_iff_of_next (fun o => by cases o <;> nofun) fun e q => by cases e <;> simp [next]

theorem runs_get_iff {ns name : String} {k : Except StatusError Obj → Prog α} {es : List Event}
    {o : Outcome α} :
    (get ns name k).Runs es o ↔ ∃ r es', es = .get ns name r :: es' ∧ (k r).Runs es' o :=
  runs_iff_of_next (fun o => by cases o <;> nofun) fun e q => by cases e <;> simp [next, and_assoc]

theorem runs_patch_iff {ns name : String} {p : AnnotationPatch} {k : Except StatusError Unit → Prog α}
    {es : List Event} {o : Outcome α} :
    (patch ns name p k).Runs es o ↔ ∃ r es', es = .patch ns name p r :: es' ∧ (k r).Runs es' o :=
  runs_iff_of_next (fun o => by cases o <;> nofun) fun e q => by cases e <;> simp [next, and_assoc]

theorem runs_delete_iff {ns name : String} {k : Except StatusError Unit → Prog α} {es : List Event}
    {o : Outcome α} :
    (delete ns name k).Runs es o ↔ ∃ r es', es = .delete ns name r :: es' ∧ (k r).Runs es' o :=
  runs_iff_of_next (fun o => by cases o <;> nofun) fun e q => by cases e <;> simp [next, and_assoc]

theorem runs_list_iff {ns key value : String} {k : Except StatusError (List Obj) → Prog α}
    {es : List Event} {o : Outcome α} :
    (list ns key value k).Runs es o ↔ ∃ r es', es = .list ns key value r :: es' ∧ (k r).Runs es' o :=
  runs_iff_of_next (fun o => by cases o <;> nofun) fun e q => by cases e <;> simp [next, and_assoc]

/-- A run of `p.bind f` is a run of `p` to a value and then a run of `f` on it, or a
run of `p` that panics. -/
theorem Runs.of_bind {p : Prog α} {f : α → Prog β} {es : List Event} {o : Outcome β}
    (h : (p.bind f).Runs es o) :
    (∃ es₁ es₂ a, es = es₁ ++ es₂ ∧ p.Runs es₁ (.returned a) ∧ (f a).Runs es₂ o) ∨
      ∃ m, o = .panicked m ∧ p.Runs es (.panicked m) := by
  induction es generalizing p with
  | nil =>
    cases p with
    | ret a => exact .inl ⟨[], [], a, rfl, rfl, h⟩
    | panic m =>
      cases o <;> cases h
      exact .inr ⟨m, rfl, rfl⟩
    | _ => cases o <;> cases h
  | cons e es ih =>
    by_cases hp : ∃ a, p = ret a
    · obtain ⟨a, rfl⟩ := hp
      exact .inl ⟨[], e :: es, a, rfl, rfl, h⟩
    · push_neg at hp
      obtain ⟨q, hq, hrun⟩ := runs_cons_iff.mp h
      rw [next_bind_of_ne_ret hp] at hq
      obtain ⟨p', hp', rfl⟩ := Option.map_eq_some'.mp hq
      rcases ih hrun with ⟨es₁, es₂, a, rfl, h₁, h₂⟩ | ⟨m, rfl, h₁⟩
      · exact .inl ⟨e :: es₁, es₂, a, rfl, runs_cons_iff.mpr ⟨p', hp', h₁⟩, h₂⟩
      · exact .inr ⟨m, rfl, runs_cons_iff.mpr ⟨p', hp', h₁⟩⟩

theorem Runs.bind {p : Prog α} {f : α → Prog β} {es es' : List Event} {a : α} {o : Outcome β}
    (hp : p.Runs es (.returned a)) (hf : (f a).Runs es' o) : (p.bind f).Runs (es ++ es') o := by
  unfold Runs at *
  rw [feed_append, feed_bind hp f]
  exact hf

/-- Every program has a run: it is a finite tree of calls. -/
theorem exists_runs (p : Prog α) : ∃ es o, p.Runs es o := by
  induction p with
  | ret a => exact ⟨[], .returned a, rfl⟩
  | panic m => exact ⟨[], .panicked m, rfl⟩
  | now k ih =>
    obtain ⟨es, o, h⟩ := ih 0
    exact ⟨_, o, runs_now_iff.mpr ⟨0, es, rfl, h⟩⟩
  | get ns name k ih =>
    obtain ⟨es, o, h⟩ := ih (.error .notFound)
    exact ⟨_, o, runs_get_iff.mpr ⟨_, es, rfl, h⟩⟩
  | patch ns name p k ih =>
    obtain ⟨es, o, h⟩ := ih (.error .notFound)
    exact ⟨_, o, runs_patch_iff.mpr ⟨_, es, rfl, h⟩⟩
  | delete ns name k ih =>
    obtain ⟨es, o, h⟩ := ih (.error .notFound)
    exact ⟨_, o, runs_delete_iff.mpr ⟨_, es, rfl, h⟩⟩
  | list ns key value k ih =>
    obtain ⟨es, o, h⟩ := ih (.error .notFound)
    exact ⟨_, o, runs_list_iff.mpr ⟨_, es, rfl, h⟩⟩

/-- A program that has taken the calls `es ++ es'` has taken `es` first. -/
theorem feed_append_eq_some {p q : Prog α} {es es' : List Event} (h : p.feed (es ++ es') = some q) :
    ∃ q', p.feed es = some q' ∧ q'.feed es' = some q := by
  rw [feed_append] at h
  exact Option.bind_eq_some.mp h

/-- Every call that any run of `p` makes satisfies `P`, whatever the answers. -/
def CallsSatisfy (P : Event → Prop) (p : Prog α) : Prop :=
  ∀ es o, p.Runs es o → ∀ e ∈ es, P e

namespace CallsSatisfy

variable {P : Event → Prop}

theorem mono {Q : Event → Prop} {p : Prog α} (hPQ : ∀ e, P e → Q e) (h : CallsSatisfy P p) :
    CallsSatisfy Q p := fun es o hr e he => hPQ e (h es o hr e he)

theorem ret (a : α) : CallsSatisfy P (ret a) := fun es o h => by
  rw [(runs_ret_iff.mp h).1]; simp

theorem panic (m : String) : CallsSatisfy P (panic m : Prog α) := fun es o h => by
  rw [(runs_panic_iff.mp h).1]; simp

theorem bind {p : Prog α} {f : α → Prog β} (hp : CallsSatisfy P p) (hf : ∀ a, CallsSatisfy P (f a)) :
    CallsSatisfy P (p.bind f) := fun es o h => by
  rcases Runs.of_bind h with ⟨es₁, es₂, a, rfl, h₁, h₂⟩ | ⟨m, -, h₁⟩
  · simpa [or_imp, forall_and] using ⟨hp _ _ h₁, hf a _ _ h₂⟩
  · exact hp _ _ h₁

theorem delete {ns name : String} {k : Except StatusError Unit → Prog α}
    (he : ∀ r, P (.delete ns name r)) (hk : ∀ r, CallsSatisfy P (k r)) :
    CallsSatisfy P (delete ns name k) := fun es o h => by
  obtain ⟨r, es', rfl, h'⟩ := runs_delete_iff.mp h
  simpa using ⟨he r, hk r _ _ h'⟩

theorem list {ns key value : String} {k : Except StatusError (List Obj) → Prog α}
    (he : ∀ r, P (.list ns key value r)) (hk : ∀ r, CallsSatisfy P (k r)) :
    CallsSatisfy P (list ns key value k) := fun es o h => by
  obtain ⟨r, es', rfl, h'⟩ := runs_list_iff.mp h
  simpa using ⟨he r, hk r _ _ h'⟩

/-- The call a program makes satisfies `P`, and so does the rest of it. -/
theorem next {p q : Prog α} {e : Event} (hp : CallsSatisfy P p) (h : p.next e = some q) :
    P e ∧ CallsSatisfy P q := by
  obtain ⟨es, o, hq⟩ := exists_runs q
  refine ⟨hp _ o (runs_cons_iff.mpr ⟨q, h, hq⟩) e (List.mem_cons_self _ _), fun es o hq e he => ?_⟩
  exact hp _ o (runs_cons_iff.mpr ⟨q, h, hq⟩) e (List.mem_cons_of_mem _ he)

theorem ite {c : Prop} [Decidable c] {p q : Prog α} (hp : CallsSatisfy P p) (hq : CallsSatisfy P q) :
    CallsSatisfy P (if c then p else q) := by
  split <;> assumption

end CallsSatisfy

end Prog

end TektonPruner
