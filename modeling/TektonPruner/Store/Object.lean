import Mathlib

/-!
# Resources and the cluster store

A resource (`metav1.Object`) as the pruner reads it: namespace, name,
creation timestamp (whole seconds, as the API serialises it), run status,
labels and annotations. The status is the one the pipeline-run and task-run
function tables test with `IsCompleted`, `IsSuccessful` and `IsFailed`; those
tables are not in the source, so the status follows the spec: succeeded,
failed, or not completed.

Annotation and label maps are association lists read by `get?`, changed by
`set` and `erase`, and patched by a JSON merge patch, whose `null` removes a
key. The store holds one object per namespace and name. Strings built by
joining fields with a separator are split back with
`append_cons_inj_of_not_mem`.
-/

namespace TektonPruner

/-- Modelled from the spec: a run's terminal status, `unknown` while not completed. -/
inductive RunStatus
  | succeeded
  | failed
  | unknown
  deriving DecidableEq, Repr

/-- Splitting at an element that occurs in neither prefix is unique. -/
theorem append_cons_inj_of_not_mem {c : Char} :
    ∀ {l₁ l₂ r₁ r₂ : List Char}, l₁ ++ c :: r₁ = l₂ ++ c :: r₂ → c ∉ l₁ → c ∉ l₂ → l₁ = l₂ ∧ r₁ = r₂
  | [], [], _, _, h, _, _ => ⟨rfl, (List.cons.inj h).2⟩
  | [], _ :: _, _, _, h, _, h₂ => absurd (List.cons.inj h).1 (fun e => h₂ (e ▸ List.mem_cons_self _ _))
  | _ :: _, [], _, _, h, h₁, _ => absurd (List.cons.inj h).1.symm (fun e => h₁ (e ▸ List.mem_cons_self _ _))
  | a :: l₁, b :: l₂, _, _, h, h₁, h₂ => by
    obtain ⟨rfl, htail⟩ := List.cons.inj h
    obtain ⟨rfl, rfl⟩ := append_cons_inj_of_not_mem htail (fun m => h₁ (List.mem_cons_of_mem _ m))
      (fun m => h₂ (List.mem_cons_of_mem _ m))
    exact ⟨rfl, rfl⟩

abbrev StringMap := List (String × String)

namespace StringMap

def get? : StringMap → String → Option String
  | [], _ => none
  | (j, v) :: m, k => if k = j then some v else get? m k

def erase (m : StringMap) (k : String) : StringMap := m.filter (·.1 != k)

def set (m : StringMap) (k v : String) : StringMap := (k, v) :: m.erase k

theorem get?_erase (m : StringMap) (k k' : String) :
    (m.erase k).get? k' = if k' = k then none else m.get? k' := by
  induction m with
  | nil => simp [erase, get?]
  | cons kv m ih =>
    obtain ⟨j, v⟩ := kv
    by_cases hk' : k' = j
    · subst hk'
      by_cases hj : k' = k
      · subst hj; simpa [erase, get?] using ih
      · simp [erase, get?, hj]
    · by_cases hj : j = k
      · subst hj; simpa [erase, get?, hk'] using ih
      · simpa [erase, get?, hj, hk'] using ih

@[simp] theorem get?_erase_self (m : StringMap) (k : String) : (m.erase k).get? k = none := by
  simp [get?_erase]

theorem get?_erase_of_ne (m : StringMap) {k k' : String} (h : k' ≠ k) :
    (m.erase k).get? k' = m.get? k' := by
  simp [get?_erase, h]

theorem get?_set (m : StringMap) (k v k' : String) :
    (m.set k v).get? k' = if k' = k then some v else m.get? k' := by
  by_cases h : k' = k
  · simp [set, get?, h]
  · simp [set, get?, h, get?_erase_of_ne]

@[simp] theorem get?_set_self (m : StringMap) (k v : String) : (m.set k v).get? k = some v := by
  simp [get?_set]

theorem get?_set_of_ne (m : StringMap) {k k' : String} (v : String) (h : k' ≠ k) :
    (m.set k v).get? k' = m.get? k' := by
  simp [get?_set, h]

def setAll (m : StringMap) (src : List (String × String)) : StringMap :=
  src.foldl (fun m kv => m.set kv.1 kv.2) m

theorem get?_append (l₁ l₂ : StringMap) (k : String) : get? (l₁ ++ l₂) k = (get? l₁ k).or (get? l₂ k) := by
  induction l₁ with
  | nil => rfl
  | cons kv l₁ ih =>
    by_cases h : k = kv.1 <;> simp [get?, h, ih]

/-- After the loop a key holds the value of its last pair in `src`, or its old one. -/
theorem get?_setAll (m : StringMap) (src : List (String × String)) (k : String) :
    (m.setAll src).get? k = (get? src.reverse k).or (m.get? k) := by
  induction src generalizing m with
  | nil => rfl
  | cons kv src ih =>
    rw [setAll, List.foldl_cons, ← setAll, ih, List.reverse_cons, get?_append, Option.or_assoc, get?_set]
    by_cases h : k = kv.1 <;> simp [get?, h]

end StringMap

/-- A JSON merge patch of `metadata.annotations`: each member sets its key to a
string, or removes it when the value is `null` (`none`). -/
abbrev AnnotationPatch := List (String × Option String)

def StringMap.mergePatch (m : StringMap) : AnnotationPatch → StringMap
  | [] => m
  | (k, some v) :: p => (m.set k v).mergePatch p
  | (k, none) :: p => (m.erase k).mergePatch p

/-- The value a patch gives a key, when it names the key: its first member
for the key, as every patch the code sends names a key at most once. -/
def AnnotationPatch.value? : AnnotationPatch → String → Option (Option String)
  | [], _ => none
  | (j, v) :: p, k => if k = j then some v else AnnotationPatch.value? p k

theorem StringMap.get?_mergePatch_of_not_mem (m : StringMap) (p : AnnotationPatch) (k : String)
    (h : AnnotationPatch.value? p k = none) : (m.mergePatch p).get? k = m.get? k := by
  induction p generalizing m with
  | nil => rfl
  | cons kv p ih =>
    obtain ⟨j, v⟩ := kv
    have hj : k ≠ j := by
      intro e; subst e; simp [AnnotationPatch.value?] at h
    have hp : AnnotationPatch.value? p k = none := by
      simpa [AnnotationPatch.value?, hj] using h
    cases v with
    | some v => rw [mergePatch, ih _ hp, get?_set_of_ne _ _ hj]
    | none => rw [mergePatch, ih _ hp, get?_erase_of_ne _ hj]

theorem StringMap.mem_of_get?_eq_some {m : StringMap} {k v : String} (h : m.get? k = some v) : (k, v) ∈ m := by
  induction m with
  | nil => simp [get?] at h
  | cons kv m ih =>
    obtain ⟨j, w⟩ := kv
    by_cases hk : k = j
    · subst hk
      simp only [get?, if_true, Option.some.injEq] at h
      exact h ▸ List.mem_cons_self _ _
    · simp only [get?, hk, if_false] at h
      exact List.mem_cons_of_mem _ (ih h)

theorem StringMap.get?_eq_none_iff (m : StringMap) (k : String) :
    m.get? k = none ↔ k ∉ m.map Prod.fst := by
  induction m with
  | nil => simp [get?]
  | cons kv m ih =>
    obtain ⟨j, v⟩ := kv
    by_cases h : k = j <;> simp [get?, h, ih]

theorem StringMap.keys_nodup_set {m : StringMap} (h : (m.map Prod.fst).Nodup) (k v : String) :
    ((m.set k v).map Prod.fst).Nodup :=
  List.nodup_cons.mpr ⟨by simp [StringMap.erase], h.sublist ((List.filter_sublist _).map _)⟩

theorem StringMap.get?_reverse {m : StringMap} (h : (m.map Prod.fst).Nodup) (k : String) :
    get? m.reverse k = get? m k := by
  induction m with
  | nil => rfl
  | cons kv m ih =>
    obtain ⟨hkv, hm⟩ := List.nodup_cons.mp h
    rw [List.reverse_cons, get?_append, ih hm]
    by_cases hk : k = kv.1
    · subst hk
      simp [get?, (get?_eq_none_iff m _).mpr hkv]
    · simp [get?, hk]

/-- A key the patch does not set to `v` reads `v` afterwards only if it did before. -/
theorem StringMap.get?_mergePatch_eq_some {m : StringMap} {p : AnnotationPatch} {k v : String}
    (h : (m.mergePatch p).get? k = some v) : (k, some v) ∈ p ∨ m.get? k = some v := by
  induction p generalizing m with
  | nil => exact .inr h
  | cons kv p ih =>
    obtain ⟨j, w⟩ := kv
    cases w with
    | some w =>
      rcases ih h with hp | hm
      · exact .inl (List.mem_cons_of_mem _ hp)
      · rw [get?_set] at hm
        split_ifs at hm with hk
        · cases hk; cases hm; exact .inl (List.mem_cons_self _ _)
        · exact .inr hm
    | none =>
      rcases ih h with hp | hm
      · exact .inl (List.mem_cons_of_mem _ hp)
      · rw [get?_erase] at hm
        split_ifs at hm
        exact .inr hm

/-- A patch that names each key once sets the keys it names and keeps the others. -/
theorem StringMap.get?_mergePatch (m : StringMap) {p : AnnotationPatch} (hp : (p.map Prod.fst).Nodup)
    (k : String) : (m.mergePatch p).get? k = (AnnotationPatch.value? p k).getD (m.get? k) := by
  induction p generalizing m with
  | nil => rfl
  | cons kv p ih =>
    obtain ⟨j, w⟩ := kv
    simp only [List.map_cons, List.nodup_cons] at hp
    have hrest : ∀ m' : StringMap, (m'.mergePatch p).get? j = m'.get? j := fun m' =>
      get?_mergePatch_of_not_mem m' p j (by
        cases hv : AnnotationPatch.value? p j with
        | none => rfl
        | some _ => exact absurd (value?_mem hv) hp.1)
    by_cases hk : k = j
    · subst hk
      cases w <;> simp [mergePatch, AnnotationPatch.value?, hrest]
    · cases w <;> simp [mergePatch, AnnotationPatch.value?, hk, ih _ hp.2, get?_set_of_ne, get?_erase_of_ne]
where
  value?_mem {p : AnnotationPatch} {j : String} {v : Option String} (h : AnnotationPatch.value? p j = some v) :
      j ∈ p.map Prod.fst := by
    induction p with
    | nil => simp [AnnotationPatch.value?] at h
    | cons kv p ih =>
      by_cases hj : j = kv.1
      · simp [hj]
      · simp only [AnnotationPatch.value?, hj, if_false] at h
        exact List.mem_cons_of_mem _ (ih h)

/-- The patch `json.Marshal` makes of a whole map: every key once, with the value
the map holds for it. -/
def StringMap.toPatch (m : StringMap) : AnnotationPatch :=
  (m.map Prod.fst).dedup.map fun k => (k, m.get? k)

theorem StringMap.value?_toPatch (m : StringMap) (k : String) :
    AnnotationPatch.value? m.toPatch k = if k ∈ m.map Prod.fst then some (m.get? k) else none := by
  have hks : ∀ ks : List String, AnnotationPatch.value? (ks.map fun k => (k, m.get? k)) k =
      if k ∈ ks then some (m.get? k) else none := by
    intro ks
    induction ks with
    | nil => rfl
    | cons j ks ih => by_cases hk : k = j <;> simp_all [AnnotationPatch.value?]
  simp only [toPatch, hks, List.mem_dedup]

/-- Merging a whole map over `n`: the map's value where it has one, `n`'s elsewhere. -/
theorem StringMap.get?_mergePatch_toPatch (n m : StringMap) (k : String) :
    (n.mergePatch m.toPatch).get? k = (m.get? k).or (n.get? k) := by
  have hnodup : (m.toPatch.map Prod.fst).Nodup := by
    simpa [toPatch, List.map_map, Function.comp_def] using List.nodup_dedup (m.map Prod.fst)
  rw [get?_mergePatch n hnodup, value?_toPatch]
  by_cases hk : k ∈ m.map Prod.fst
  · obtain ⟨v, hv⟩ := Option.ne_none_iff_exists'.mp ((get?_eq_none_iff m k).not.mpr (not_not.mpr hk))
    simp [hk, hv]
  · simp [hk, (get?_eq_none_iff m k).mpr hk]

structure Obj where
  ns : String
  name : String
  creationTimestamp : Int
  status : RunStatus
  labels : StringMap
  annotations : StringMap
  deriving DecidableEq, Repr

def Obj.key (o : Obj) : String × String := (o.ns, o.name)

/-- The objects in the cluster, at most one per namespace and name. -/
structure Store where
  objs : List Obj
  nodup : (objs.map Obj.key).Nodup

namespace Store

def find? (s : Store) (ns name : String) : Option Obj := s.objs.find? (·.key == (ns, name))

def erase (s : Store) (ns name : String) : Store where
  objs := s.objs.filter (·.key != (ns, name))
  nodup := (List.Sublist.map _ (List.filter_sublist _)).nodup s.nodup

def patch (s : Store) (ns name : String) (p : AnnotationPatch) : Store where
  objs := s.objs.map fun o =>
    if o.key = (ns, name) then { o with annotations := o.annotations.mergePatch p } else o
  nodup := by
    rw [List.map_map]
    convert s.nodup using 2
    funext o
    simp only [Function.comp_apply]
    split_ifs <;> rfl

theorem find?_erase (s : Store) (ns name ns' name' : String) :
    (s.erase ns name).find? ns' name' = if (ns', name') = (ns, name) then none else s.find? ns' name' := by
  unfold find? erase
  rw [List.find?_filter]
  split_ifs with h
  · rw [List.find?_eq_none]
    intro o _
    simp only [h, bne_iff_ne, ne_eq, beq_iff_eq, decide_eq_true_eq]
    tauto
  · congr 1
    funext o
    by_cases ho : o.key = (ns', name') <;> simp_all [not_and_or]

theorem mem_erase_objs {s : Store} {ns name : String} {o : Obj} :
    o ∈ (s.erase ns name).objs ↔ o ∈ s.objs ∧ o.key ≠ (ns, name) := by
  simp [erase]

theorem find?_patch (s : Store) (ns name : String) (p : AnnotationPatch) (ns' name' : String) :
    (s.patch ns name p).find? ns' name' = (s.find? ns' name').map fun o =>
      if (ns', name') = (ns, name) then { o with annotations := o.annotations.mergePatch p } else o := by
  unfold find? patch
  rw [List.find?_map]
  have hkey : ((·.key == (ns', name')) ∘ fun o : Obj =>
      if o.key = (ns, name) then { o with annotations := o.annotations.mergePatch p } else o) =
      (·.key == (ns', name')) := by
    funext o; simp only [Function.comp_apply]; split_ifs <;> rfl
  rw [hkey]
  cases hf : s.objs.find? (·.key == (ns', name')) with
  | none => rfl
  | some o =>
    have ho : o.key = (ns', name') := by simpa using List.find?_some hf
    simp [ho]

/-- Annotation `k` of the object `ns/name`, when the object exists and has it. -/
def annotation? (s : Store) (ns name k : String) : Option String :=
  (s.find? ns name).bind (·.annotations.get? k)

theorem annotation?_patch (s : Store) (ns name : String) (p : AnnotationPatch) (k : String) :
    (s.patch ns name p).annotation? ns name k = (s.find? ns name).bind (·.annotations.mergePatch p |>.get? k) := by
  simp only [annotation?, find?_patch, if_true]
  cases s.find? ns name <;> rfl

theorem annotation?_patch_of_ne (s : Store) {ns name ns' name' : String} (p : AnnotationPatch)
    (h : (ns', name') ≠ (ns, name)) (k : String) :
    (s.patch ns name p).annotation? ns' name' k = s.annotation? ns' name' k := by
  simp only [annotation?, find?_patch, h, if_false, Option.map_id']

/-- What `List(namespace, "key=value")` selects. -/
def selected (s : Store) (ns key value : String) : List Obj :=
  s.objs.filter fun o => o.ns == ns && o.labels.get? key == some value

end Store

end TektonPruner
