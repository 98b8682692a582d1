import TektonPruner.Config.Types

/-!
# The admission webhook's config validation

The webhook admits a change to the ConfigMap `tekton-pipelines/tekton-pruner-default-spec`
only when its `global-config` document decodes and passes `validatePrunerConfigFields`:
at the root, in each namespace entry and in each `pipelineRuns[i]` and `taskRuns[i]`
spec of an entry, every count that is set must be non-negative, and an
`enforcedConfigLevel` that is set at the root or in a resource spec must be one of
the three levels. The namespace entries' own `enforcedConfigLevel` is not checked.

The webhook decodes into the `config` package's types, which are not in the
source: the structures here hold exactly the fields the validators read, with
the types those reads give them. Both decoders (`yaml.Unmarshal`, and
`json.Unmarshal` of the request's raw object) are parameters.

Each validator returns the first failing check's message. A `Site` names a
check by the path its message gives, and `Site.Fails` says when the check
fails. The main result: the validator passes exactly when no site fails, and
every message it returns is that of a failing site. Go ranges over the
namespaces map in an unspecified order, so which failing namespace is reported
may differ from run to run; the verdict does not.
-/

namespace TektonPruner.Webhook

open Config (EnforcedConfigLevel enforcedConfigLevelGlobal enforcedConfigLevelNamespace
  enforcedConfigLevelResource)

structure Counts where
  ttlSecondsAfterFinished : Option Int32
  successfulHistoryLimit : Option Int32
  failedHistoryLimit : Option Int32
  historyLimit : Option Int32
  deriving DecidableEq, Repr

/-- `config.ResourceSpec`, the fields `validateResourceSpec` reads. -/
structure ResourceSpec extends Counts where
  enforcedConfigLevel : Option EnforcedConfigLevel
  deriving DecidableEq, Repr

/-- `config.NamespaceSpec`, the fields `validateNamespaceSpec` reads. -/
structure NamespaceSpec extends Counts where
  pipelineRuns : List ResourceSpec
  taskRuns : List ResourceSpec
  deriving DecidableEq, Repr

/-- `config.PrunerConfig`, the fields `validatePrunerConfigFields` reads; the
namespaces map as the list of its entries. -/
structure PrunerConfig extends Counts where
  enforcedConfigLevel : Option EnforcedConfigLevel
  namespaces : List (String × NamespaceSpec)
  deriving DecidableEq, Repr

inductive Count
  | ttlSecondsAfterFinished
  | successfulHistoryLimit
  | failedHistoryLimit
  | historyLimit
  deriving DecidableEq, Repr

def Count.name : Count → String
  | .ttlSecondsAfterFinished => "ttlSecondsAfterFinished"
  | .successfulHistoryLimit => "successfulHistoryLimit"
  | .failedHistoryLimit => "failedHistoryLimit"
  | .historyLimit => "historyLimit"

def Count.all : List Count := [.ttlSecondsAfterFinished, .successfulHistoryLimit, .failedHistoryLimit, .historyLimit]

theorem Count.mem_all (f : Count) : f ∈ Count.all := by cases f <;> decide

def Counts.get (c : Counts) : Count → Option Int32
  | .ttlSecondsAfterFinished => c.ttlSecondsAfterFinished
  | .successfulHistoryLimit => c.successfulHistoryLimit
  | .failedHistoryLimit => c.failedHistoryLimit
  | .historyLimit => c.historyLimit

def Negative : Option Int32 → Prop
  | some v => v.toInt < 0
  | none => False

instance : DecidablePred Negative
  | some v => inferInstanceAs (Decidable (v.toInt < 0))
  | none => inferInstanceAs (Decidable False)

def BadLevel : Option EnforcedConfigLevel → Prop
  | some level => ¬ (level = enforcedConfigLevelGlobal ∨ level = enforcedConfigLevelNamespace ∨
      level = enforcedConfigLevelResource)
  | none => False

instance : DecidablePred BadLevel
  | some level => inferInstanceAs (Decidable (¬ (level = _ ∨ level = _ ∨ level = _)))
  | none => inferInstanceAs (Decidable False)

def countMessage (pfx : String) (f : Count) : String := pfx ++ f.name ++ " must be non-negative"

def levelMessage (pfx : String) : String :=
  pfx ++ "enforcedConfigLevel must be one of: global, namespace, resource"

def namespaceMessage (nsName err : String) : String := "namespace " ++ nsName ++ " validation failed: " ++ err

-- ---------------------------------------------------------------------------
-- The validators
-- ---------------------------------------------------------------------------

/-- The `if x != nil && *x < 0 { return fmt.Errorf(...) }` checks over the counts `fs`,
in order, each message prefixed by `pfx`. -/
def checkCounts (pfx : String) (c : Counts) : List Count → Except String Unit
  | [] => pure ()
  | f :: fs => if Negative (c.get f) then throw (countMessage pfx f) else checkCounts pfx c fs

/-- The `switch` on an `enforcedConfigLevel` that is set. -/
def checkLevel (pfx : String) (level : Option EnforcedConfigLevel) : Except String Unit :=
  if BadLevel level then throw (levelMessage pfx) else pure ()

def validateResourceSpec (fieldPath : String) (resourceSpec : ResourceSpec) : Except String Unit := do
  checkCounts (fieldPath ++ ".") resourceSpec.toCounts Count.all
  checkLevel (fieldPath ++ ".") resourceSpec.enforcedConfigLevel

def resourcePath (kind : String) (i : Nat) : String := kind ++ "[" ++ toString i ++ "]"

/-- The `for i, resourceSpec := range` loop over one list, its index starting at `i`. -/
def validateResourceSpecs (kind : String) : Nat → List ResourceSpec → Except String Unit
  | _, [] => pure ()
  | i, resourceSpec :: rest => do
    validateResourceSpec (resourcePath kind i) resourceSpec
    validateResourceSpecs kind (i + 1) rest

/-- `validateNamespaceSpec`; it never reads `nsName`, nor the entry's own `enforcedConfigLevel`. -/
def validateNamespaceSpec (_nsName : String) (nsSpec : NamespaceSpec) : Except String Unit := do
  checkCounts "" nsSpec.toCounts Count.all
  validateResourceSpecs "pipelineRuns" 0 nsSpec.pipelineRuns
  validateResourceSpecs "taskRuns" 0 nsSpec.taskRuns

def validateNamespaces : List (String × NamespaceSpec) → Except String Unit
  | [] => pure ()
  | (nsName, nsSpec) :: rest => do
    (validateNamespaceSpec nsName nsSpec).mapError (namespaceMessage nsName)
    validateNamespaces rest

/-- `validatePrunerConfigFields`: the root's level, then its counts, then each namespace. -/
def validatePrunerConfigFields (cfg : PrunerConfig) : Except String Unit := do
  checkLevel "" cfg.enforcedConfigLevel
  checkCounts "" cfg.toCounts Count.all
  validateNamespaces cfg.namespaces

-- ---------------------------------------------------------------------------
-- What a check reports
-- ---------------------------------------------------------------------------

/-- `check` reports the failures `F`: it passes exactly when there is none, and
every message it returns is one of them. -/
structure Reports (check : Except String Unit) (F : String → Prop) : Prop where
  ok_iff : check = .ok () ↔ ∀ m, ¬ F m
  error : ∀ m, check = .error m → F m

namespace Reports

variable {a b : Except String Unit} {F G : String → Prop}

theorem pure_unit : Reports (pure ()) fun _ => False :=
  ⟨iff_of_true rfl fun _ h => h, fun _ h => nomatch h⟩

theorem congr (ha : Reports a F) (hFG : ∀ m, F m ↔ G m) : Reports a G :=
  ⟨ha.ok_iff.trans (forall_congr' fun m => not_congr (hFG m)), fun m h => (hFG m).mp (ha.error m h)⟩

theorem ite_throw (p : Prop) [Decidable p] (m : String) (hb : Reports b G) :
    Reports (if p then throw m else b) fun m' => (p ∧ m = m') ∨ G m' := by
  by_cases hp : p
  · rw [if_pos hp]
    exact ⟨iff_of_false (fun h => nomatch h) fun h => h m (.inl ⟨hp, rfl⟩),
      fun m' h => .inl ⟨hp, by cases h; rfl⟩⟩
  · rw [if_neg hp]
    exact hb.congr fun m' => by simp [hp]

theorem seq (ha : Reports a F) (hb : Reports b G) : Reports (a >>= fun _ => b) fun m => F m ∨ G m := by
  cases a with
  | error e =>
    have he := ha.error e rfl
    exact ⟨iff_of_false (fun h => nomatch h) fun h => h e (.inl he), fun m h => .inl (by cases h; exact he)⟩
  | ok u =>
    have hF := ha.ok_iff.mp rfl
    exact ⟨hb.ok_iff.trans (by simp [hF]), fun m h => .inr (hb.error m h)⟩

theorem mapError (g : String → String) (ha : Reports a F) :
    Reports (a.mapError g) fun m => ∃ m', F m' ∧ g m' = m := by
  cases a with
  | error e =>
    have he := ha.error e rfl
    exact ⟨iff_of_false (fun h => nomatch h) fun h => h _ ⟨e, he, rfl⟩, fun m h => ⟨e, he, by cases h; rfl⟩⟩
  | ok u => exact ⟨iff_of_true rfl fun m ⟨m', hm', _⟩ => ha.ok_iff.mp rfl m' hm', fun m h => nomatch h⟩

end Reports

theorem checkCounts_reports (pfx : String) (c : Counts) (fs : List Count) :
    Reports (checkCounts pfx c fs) fun m => ∃ f ∈ fs, Negative (c.get f) ∧ countMessage pfx f = m := by
  induction fs with
  | nil => exact Reports.pure_unit.congr (by simp)
  | cons f fs ih => exact (Reports.ite_throw _ _ ih).congr fun m => by simp [exists_eq_or_imp]

theorem checkLevel_reports (pfx : String) (level : Option EnforcedConfigLevel) :
    Reports (checkLevel pfx level) fun m => BadLevel level ∧ levelMessage pfx = m :=
  (Reports.ite_throw _ _ Reports.pure_unit).congr fun m => by simp

-- ---------------------------------------------------------------------------
-- Check sites
-- ---------------------------------------------------------------------------

inductive ResourceSite
  | count (f : Count)
  | level
  deriving DecidableEq, Repr

def ResourceSite.message (fieldPath : String) : ResourceSite → String
  | .count f => countMessage (fieldPath ++ ".") f
  | .level => levelMessage (fieldPath ++ ".")

def ResourceSite.Fails (r : ResourceSpec) : ResourceSite → Prop
  | .count f => Negative (r.toCounts.get f)
  | .level => BadLevel r.enforcedConfigLevel

inductive Kind
  | pipelineRuns
  | taskRuns
  deriving DecidableEq, Repr

def Kind.name : Kind → String
  | .pipelineRuns => "pipelineRuns"
  | .taskRuns => "taskRuns"

def NamespaceSpec.specs (s : NamespaceSpec) : Kind → List ResourceSpec
  | .pipelineRuns => s.pipelineRuns
  | .taskRuns => s.taskRuns

/-- A check of `validateNamespaceSpec`: one of the entry's counts, or a check of
its `i`-th resource spec of one kind. -/
inductive NamespaceSite
  | count (f : Count)
  | resource (kind : Kind) (i : Nat) (site : ResourceSite)
  deriving DecidableEq, Repr

def NamespaceSite.message : NamespaceSite → String
  | .count f => countMessage "" f
  | .resource kind i site => site.message (resourcePath kind.name i)

def NamespaceSite.Fails (s : NamespaceSpec) : NamespaceSite → Prop
  | .count f => Negative (s.toCounts.get f)
  | .resource kind i site => ∃ r, (s.specs kind)[i]? = some r ∧ site.Fails r

/-- A check of `validatePrunerConfigFields`: the root's level or one of its
counts, or a check of the entry of a namespace. -/
inductive Site
  | level
  | count (f : Count)
  | ns (nsName : String) (site : NamespaceSite)
  deriving DecidableEq, Repr

def Site.message : Site → String
  | .level => levelMessage ""
  | .count f => countMessage "" f
  | .ns nsName site => namespaceMessage nsName site.message

def Site.Fails (cfg : PrunerConfig) : Site → Prop
  | .level => BadLevel cfg.enforcedConfigLevel
  | .count f => Negative (cfg.toCounts.get f)
  | .ns nsName site => ∃ s, (nsName, s) ∈ cfg.namespaces ∧ site.Fails s

theorem validateResourceSpec_reports (fieldPath : String) (r : ResourceSpec) :
    Reports (validateResourceSpec fieldPath r) fun m =>
      ∃ site : ResourceSite, site.Fails r ∧ site.message fieldPath = m := by
  refine ((checkCounts_reports _ _ _).seq (checkLevel_reports _ _)).congr fun m => ⟨?_, ?_⟩
  · rintro (⟨f, -, hf, rfl⟩ | ⟨hl, rfl⟩)
    exacts [⟨.count f, hf, rfl⟩, ⟨.level, hl, rfl⟩]
  · rintro ⟨f | _, h, rfl⟩
    exacts [.inl ⟨f, Count.mem_all f, h, rfl⟩, .inr ⟨h, rfl⟩]

theorem validateResourceSpecs_reports (kind : String) (i : Nat) (rs : List ResourceSpec) :
    Reports (validateResourceSpecs kind i rs) fun m => ∃ j r, rs[j]? = some r ∧
      ∃ site : ResourceSite, site.Fails r ∧ site.message (resourcePath kind (i + j)) = m := by
  induction rs generalizing i with
  | nil => exact Reports.pure_unit.congr (by simp)
  | cons r rs ih =>
    refine ((validateResourceSpec_reports _ r).seq (ih (i + 1))).congr fun m => ⟨?_, ?_⟩
    · rintro (h | ⟨j, r', hj, h⟩)
      · exact ⟨0, r, List.getElem?_cons_zero, h⟩
      · exact ⟨j + 1, r', List.getElem?_cons_succ.trans hj, by rwa [show i + (j + 1) = i + 1 + j by omega]⟩
    · rintro ⟨_ | j, r', hj, h⟩
      · obtain rfl : r = r' := by simpa using hj
        exact .inl h
      · exact .inr ⟨j, r', List.getElem?_cons_succ.symm.trans hj, by rwa [show i + 1 + j = i + (j + 1) by omega]⟩

theorem validateNamespaceSpec_reports (nsName : String) (s : NamespaceSpec) :
    Reports (validateNamespaceSpec nsName s) fun m =>
      ∃ site : NamespaceSite, site.Fails s ∧ site.message = m := by
  refine ((checkCounts_reports _ _ _).seq ((validateResourceSpecs_reports _ 0 _).seq
    (validateResourceSpecs_reports _ 0 _))).congr fun m => ⟨?_, ?_⟩
  · rintro (⟨f, -, hf, rfl⟩ | ⟨j, r, hj, site, hs, rfl⟩ | ⟨j, r, hj, site, hs, rfl⟩)
    · exact ⟨.count f, hf, rfl⟩
    · exact ⟨.resource .pipelineRuns j site, ⟨r, hj, hs⟩, by simp [NamespaceSite.message, Kind.name]⟩
    · exact ⟨.resource .taskRuns j site, ⟨r, hj, hs⟩, by simp [NamespaceSite.message, Kind.name]⟩
  · rintro ⟨f | ⟨_ | _, j, site⟩, h, rfl⟩
    · exact .inl ⟨f, Count.mem_all f, h, rfl⟩
    · obtain ⟨r, hj, hs⟩ := h
      exact .inr (.inl ⟨j, r, hj, site, hs, by simp [NamespaceSite.message, Kind.name]⟩)
    · obtain ⟨r, hj, hs⟩ := h
      exact .inr (.inr ⟨j, r, hj, site, hs, by simp [NamespaceSite.message, Kind.name]⟩)

theorem validateNamespaces_reports (l : List (String × NamespaceSpec)) :
    Reports (validateNamespaces l) fun m => ∃ nsName s, (nsName, s) ∈ l ∧
      ∃ site : NamespaceSite, site.Fails s ∧ namespaceMessage nsName site.message = m := by
  induction l with
  | nil => exact Reports.pure_unit.congr (by simp)
  | cons e l ih =>
    obtain ⟨nsName, s⟩ := e
    refine (((validateNamespaceSpec_reports nsName s).mapError _).seq ih).congr fun m => ⟨?_, ?_⟩
    · rintro (⟨_, ⟨site, hs, rfl⟩, rfl⟩ | ⟨n, s', hmem, h⟩)
      exacts [⟨nsName, s, List.mem_cons_self _ _, site, hs, rfl⟩, ⟨n, s', List.mem_cons_of_mem _ hmem, h⟩]
    · rintro ⟨n, s', hmem, h⟩
      rcases List.mem_cons.mp hmem with heq | hmem
      · cases heq
        obtain ⟨site, hs, rfl⟩ := h
        exact .inl ⟨_, ⟨site, hs, rfl⟩, rfl⟩
      · exact .inr ⟨n, s', hmem, h⟩

theorem validatePrunerConfigFields_reports (cfg : PrunerConfig) :
    Reports (validatePrunerConfigFields cfg) fun m => ∃ site : Site, site.Fails cfg ∧ site.message = m := by
  refine ((checkLevel_reports _ _).seq ((checkCounts_reports _ _ _).seq
    (validateNamespaces_reports _))).congr fun m => ⟨?_, ?_⟩
  · rintro (⟨hl, rfl⟩ | ⟨f, -, hf, rfl⟩ | ⟨nsName, s, hmem, site, hs, rfl⟩)
    exacts [⟨.level, hl, rfl⟩, ⟨.count f, hf, rfl⟩, ⟨.ns nsName site, ⟨s, hmem, hs⟩, rfl⟩]
  · rintro ⟨_ | f | ⟨nsName, site⟩, h, rfl⟩
    · exact .inl ⟨h, rfl⟩
    · exact .inr (.inl ⟨f, Count.mem_all f, h, rfl⟩)
    · obtain ⟨s, hmem, hs⟩ := h
      exact .inr (.inr ⟨nsName, s, hmem, site, hs, rfl⟩)

theorem validatePrunerConfigFields_eq_ok (cfg : PrunerConfig) :
    validatePrunerConfigFields cfg = .ok () ↔ ∀ site : Site, ¬ site.Fails cfg :=
  (validatePrunerConfigFields_reports cfg).ok_iff.trans
    ⟨fun h site hs => h _ ⟨site, hs, rfl⟩, fun h _ ⟨site, hs, _⟩ => h site hs⟩

/-- The webhook passes a config exactly when no check fails anywhere in it, and
rejects it with the message of a check that fails. Which failing namespace the
message names depends on the order Go ranges over the map; the verdict does not. -/
theorem validatePrunerConfigFields_verdict (cfg : PrunerConfig) :
    (validatePrunerConfigFields cfg = .ok () ↔ ∀ site : Site, ¬ site.Fails cfg) ∧
    (∀ msg, validatePrunerConfigFields cfg = .error msg → ∃ site : Site, site.Fails cfg ∧ site.message = msg) ∧
    ∀ namespaces', namespaces'.Perm cfg.namespaces →
      (validatePrunerConfigFields { cfg with namespaces := namespaces' } = .ok () ↔
        validatePrunerConfigFields cfg = .ok ()) := by
  refine ⟨validatePrunerConfigFields_eq_ok cfg, (validatePrunerConfigFields_reports cfg).error, fun l hp => ?_⟩
  have hfails : ∀ site : Site, site.Fails { cfg with namespaces := l } ↔ site.Fails cfg := by
    rintro (_ | _ | _) <;> simp only [Site.Fails, hp.mem_iff]
  simp only [validatePrunerConfigFields_eq_ok, hfails]

/-- Two namespaces that both fail: the message names the one visited first. -/
example :
    validatePrunerConfigFields ⟨⟨none, none, none, none⟩, none,
        [("a", ⟨⟨none, none, none, some (-1)⟩, [], []⟩),
         ("b", ⟨⟨none, none, none, none⟩, [], [⟨⟨none, none, none, none⟩, some "all"⟩]⟩)]⟩ =
      .error "namespace a validation failed: historyLimit must be non-negative" ∧
    validatePrunerConfigFields ⟨⟨none, none, none, none⟩, none,
        [("b", ⟨⟨none, none, none, none⟩, [], [⟨⟨none, none, none, none⟩, some "all"⟩]⟩),
         ("a", ⟨⟨none, none, none, some (-1)⟩, [], []⟩)]⟩ =
      .error "namespace b validation failed: taskRuns[0].enforcedConfigLevel must be one of: global, namespace, resource" :=
  ⟨rfl, rfl⟩

-- ---------------------------------------------------------------------------
-- Removing settings keeps a config valid
-- ---------------------------------------------------------------------------

/-- Each count of `c'` is unset or the same as in `c`. -/
def Counts.Within (c' c : Counts) : Prop := ∀ f, c'.get f = none ∨ c'.get f = c.get f

def ResourceSpec.Within (r' r : ResourceSpec) : Prop :=
  r'.toCounts.Within r.toCounts ∧ (r'.enforcedConfigLevel = none ∨ r'.enforcedConfigLevel = r.enforcedConfigLevel)

/-- The entry's counts within `s`'s, and each of its resource specs within one of
the same kind in `s`. -/
def NamespaceSpec.Within (s' s : NamespaceSpec) : Prop :=
  s'.toCounts.Within s.toCounts ∧ ∀ kind, ∀ r' ∈ s'.specs kind, ∃ r ∈ s.specs kind, r'.Within r

/-- The root's counts and level within `cfg`'s, and each namespace entry within
one of the same namespace in `cfg`. -/
def PrunerConfig.Within (cfg' cfg : PrunerConfig) : Prop :=
  cfg'.toCounts.Within cfg.toCounts ∧
    (cfg'.enforcedConfigLevel = none ∨ cfg'.enforcedConfigLevel = cfg.enforcedConfigLevel) ∧
    ∀ nsName s', (nsName, s') ∈ cfg'.namespaces → ∃ s, (nsName, s) ∈ cfg.namespaces ∧ s'.Within s

theorem Counts.Within.negative {c' c : Counts} (h : c'.Within c) (f : Count) (hf : Negative (c'.get f)) :
    Negative (c.get f) := by
  rcases h f with h | h <;> rw [h] at hf
  exacts [hf.elim, hf]

theorem badLevel_of_within {l' l : Option EnforcedConfigLevel} (h : l' = none ∨ l' = l) (hl : BadLevel l') :
    BadLevel l := by
  rcases h with rfl | rfl
  exacts [hl.elim, hl]

theorem ResourceSite.fails_of_within {r' r : ResourceSpec} (h : r'.Within r) :
    ∀ site : ResourceSite, site.Fails r' → site.Fails r
  | .count f, hf => h.1.negative f hf
  | .level, hl => badLevel_of_within h.2 hl

theorem NamespaceSite.fails_of_within {s' s : NamespaceSpec} (h : s'.Within s) :
    ∀ site : NamespaceSite, site.Fails s' → ∃ site' : NamespaceSite, site'.Fails s
  | .count f, hf => ⟨.count f, h.1.negative f hf⟩
  | .resource kind _ site, ⟨r', hr', hf⟩ => by
    obtain ⟨r, hr, hw⟩ := h.2 kind r' (List.mem_iff_getElem?.mpr ⟨_, hr'⟩)
    obtain ⟨j, hj⟩ := List.mem_iff_getElem?.mp hr
    exact ⟨.resource kind j site, r, hj, ResourceSite.fails_of_within hw site hf⟩

theorem Site.fails_of_within {cfg' cfg : PrunerConfig} (h : cfg'.Within cfg) :
    ∀ site : Site, site.Fails cfg' → ∃ site' : Site, site'.Fails cfg
  | .level, hl => ⟨.level, badLevel_of_within h.2.1 hl⟩
  | .count f, hf => ⟨.count f, h.1.negative f hf⟩
  | .ns nsName site, ⟨s', hs', hf⟩ => by
    obtain ⟨s, hs, hw⟩ := h.2.2 nsName s' hs'
    obtain ⟨site', hf'⟩ := NamespaceSite.fails_of_within hw site hf
    exact ⟨.ns nsName site', s, hs, hf'⟩

/-- A config the webhook passes stays valid as settings are taken out of it:
counts and levels unset, namespace entries and resource specs dropped,
reordered or repeated, each kept one holding only values of one of the same
namespace or kind in the original. -/
theorem validatePrunerConfigFields_within {cfg' cfg : PrunerConfig} (h : cfg'.Within cfg)
    (hok : validatePrunerConfigFields cfg = .ok ()) : validatePrunerConfigFields cfg' = .ok () := by
  rw [validatePrunerConfigFields_eq_ok] at hok ⊢
  intro site hf
  obtain ⟨site', hf'⟩ := Site.fails_of_within h site hf
  exact hok site' hf'

/-- A config with a root TTL and one namespace entry holding a limit and a
`taskRuns` spec with a level. -/
def sampleConfig : PrunerConfig :=
  ⟨⟨some 600, none, none, none⟩, some "namespace",
    [("ns1", ⟨⟨none, some 3, none, none⟩, [], [⟨⟨some 60, none, none, none⟩, some "resource"⟩]⟩)]⟩

def sampleConfigTrimmed : PrunerConfig :=
  ⟨⟨none, none, none, none⟩, none, [("ns1", ⟨⟨none, none, none, none⟩, [], [⟨⟨some 60, none, none, none⟩, some "resource"⟩]⟩)]⟩

theorem sample_trimmed_config_passes :
    sampleConfigTrimmed.Within sampleConfig ∧ validatePrunerConfigFields sampleConfig = .ok () ∧
      validatePrunerConfigFields sampleConfigTrimmed = .ok () := by
  have hw : sampleConfigTrimmed.Within sampleConfig := by
    refine ⟨fun f => .inl (by cases f <;> rfl), .inl rfl, fun nsName s' hs' => ?_⟩
    simp only [sampleConfigTrimmed, List.mem_singleton, Prod.mk.injEq] at hs'
    obtain ⟨rfl, rfl⟩ := hs'
    refine ⟨_, List.mem_singleton_self _, fun f => .inl (by cases f <;> rfl), fun kind r' hr' => ?_⟩
    exact ⟨r', by cases kind <;> exact hr', fun f => .inr rfl, .inr rfl⟩
  have hok : validatePrunerConfigFields sampleConfig = .ok () := rfl
  exact ⟨hw, hok, validatePrunerConfigFields_within hw hok⟩

/-- `corev1.ConfigMap`, the fields the webhook reads; `data` is `none` for a nil map. -/
structure ConfigMap where
  name : String
  ns : String
  data : Option (List (String × String))
  deriving DecidableEq, Repr

section Decoders

variable (unmarshal : String → Except String PrunerConfig)

/-- `validatePrunerConfigMap`, with `yaml.Unmarshal` as `unmarshal`. -/
def validatePrunerConfigMap (cm : ConfigMap) : Except String Unit :=
  match cm.data with
  | none => throw "configmap data is required"
  | some data =>
    match data.lookup "global-config" with
    | none => throw "global-config data field is required"
    | some globalConfigData =>
      if globalConfigData = "" then throw "global-config data field is required"
      else do
        let prunerConfig ← (unmarshal globalConfigData).mapError ("failed to parse global-config YAML: " ++ ·)
        (validatePrunerConfigFields prunerConfig).mapError ("configuration validation failed: " ++ ·)

structure AdmissionResponse where
  allowed : Bool
  message : Option String
  deriving DecidableEq, Repr

variable (decodeConfigMap : List UInt8 → Except String ConfigMap)

/-- `validateConfigMapAdmission`, with `json.Unmarshal` of `req.Object.Raw` as `decodeConfigMap`. -/
def validateConfigMapAdmission (raw : List UInt8) : AdmissionResponse :=
  match decodeConfigMap raw with
  | .error err => ⟨false, some err⟩
  | .ok configMap =>
    if configMap.name ≠ "tekton-pruner-default-spec" ∨ configMap.ns ≠ "tekton-pipelines" then ⟨true, none⟩
    else
      match validatePrunerConfigMap unmarshal configMap with
      | .error err => ⟨false, some err⟩
      | .ok () => ⟨true, none⟩

-- ---------------------------------------------------------------------------
-- The HTTP handler
-- ---------------------------------------------------------------------------

structure AdmissionRequest where
  uid : String
  object : List UInt8
  deriving DecidableEq, Repr

/-- An `admissionv1.AdmissionReview` as the handler decodes it; `none` is a nil `Request`. -/
structure AdmissionReview where
  request : Option AdmissionRequest
  deriving DecidableEq, Repr

structure ReviewResponse where
  uid : String
  response : AdmissionResponse
  deriving DecidableEq, Repr

variable (unmarshalReview : List UInt8 → AdmissionReview × Option String)

/-- `WebhookServer.validateConfigMap` on the bytes `io.ReadAll` returned, with
`json.Unmarshal` as `unmarshalReview`, which returns what it filled in with its
error. A review that decodes without error and has no request makes
`validateConfigMapAdmission` dereference a nil request: the panic is `none`. -/
def validateConfigMap (body : List UInt8) : Option ReviewResponse :=
  let (ar, err) := unmarshalReview body
  let admissionResponse : Option AdmissionResponse :=
    match err with
    | some err => some ⟨false, some err⟩
    | none => ar.request.map fun req => validateConfigMapAdmission unmarshal decodeConfigMap req.object
  admissionResponse.map fun response => ⟨(ar.request.map (·.uid)).getD "", response⟩

end Decoders

/-- The body `{}` decodes to a review without a request. -/
example : validateConfigMap (fun _ => .error "") (fun _ => .error "") (fun _ => (⟨none⟩, none)) "{}".toUTF8.toList = none :=
  rfl

end TektonPruner.Webhook
