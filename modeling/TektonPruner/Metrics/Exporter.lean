import TektonPruner.Metrics.MetricsConfig

/-!
# The metrics exporter's lifecycle

`MetricsExporter.Initialize` does nothing on an initialized exporter; otherwise
it records the config and, for an enabled `prometheus` config, creates the
Prometheus exporter, sets the global meter provider and starts an HTTP server on
the config's endpoint serving its path. `Shutdown` does nothing on an
uninitialized exporter; otherwise it shuts the server down, then the meter
provider, and clears `isInitialized` only when both succeed. `prometheus.New`
and the two shutdowns are the world's answers, carried by each call.

`http.Server.Shutdown` closes the server's listeners before it waits for open
connections, so a server is closed even when its `Shutdown` returns an error.
Over every run from the zero exporter, no server is started while another one
it started is open, and every server started is that of an enabled
`prometheus` config some `Initialize` was given. A failed `Shutdown` leaves the
exporter initialized with its server closed, and every `Initialize` after it
does nothing until a `Shutdown` succeeds.
-/

namespace TektonPruner.Metrics

/-- The `http.Server` that `Initialize` starts: its `Addr`, and the one path its mux serves. -/
structure Server where
  addr : String
  path : String
  deriving DecidableEq, Repr

/-- `MetricsExporter` without its mutex; `meterProvider` says whether `e.meterProvider` is set. -/
structure MetricsExporter where
  config : Option MetricsConfig
  meterProvider : Bool
  server : Option Server
  isInitialized : Bool
  deriving DecidableEq, Repr

inductive Effect
  /-- `otel.SetMeterProvider` with the new provider, and `initializeRecorder`. -/
  | setMeterProvider
  /-- The goroutine running `ListenAndServe`. -/
  | listen (server : Server)
  /-- `server.Shutdown`, which closes the server's listeners whatever it returns. -/
  | closeServer (server : Server)
  | shutdownMeterProvider
  deriving DecidableEq, Repr

def MetricsExporter.zero : MetricsExporter := ⟨none, false, none, false⟩

/-- `Initialize`, with `prometheus.New()`'s error as `newErr`: the exporter after,
what it did, and the error it returns. -/
def MetricsExporter.Initialize (e : MetricsExporter) (config : MetricsConfig) (newErr : Option String) :
    MetricsExporter × List Effect × Option String :=
  if e.isInitialized then (e, [], none)
  else
    let e := { e with config := some config }
    if !config.enabled || config.protocol != "prometheus" then (e, [], none)
    else
      match newErr with
      | some err => (e, [], some ("failed to create Prometheus exporter: " ++ err))
      | none =>
        let server : Server := ⟨config.endpoint, config.path⟩
        ({ e with meterProvider := true, server := some server, isInitialized := true },
          [.setMeterProvider, .listen server], none)

def MetricsExporter.shutdownMeterProvider (e : MetricsExporter) (providerErr : Option String) :
    MetricsExporter × List Effect × Option String :=
  if e.meterProvider then
    match providerErr with
    | some err => (e, [.shutdownMeterProvider], some err)
    | none => ({ e with isInitialized := false }, [.shutdownMeterProvider], none)
  else ({ e with isInitialized := false }, [], none)

/-- `Shutdown`, with the errors `server.Shutdown` and `meterProvider.Shutdown` return. -/
def MetricsExporter.shutdown (e : MetricsExporter) (serverErr providerErr : Option String) :
    MetricsExporter × List Effect × Option String :=
  if !e.isInitialized then (e, [], none)
  else
    match e.server with
    | none => e.shutdownMeterProvider providerErr
    | some server =>
      match serverErr with
      | some err => (e, [.closeServer server], some err)
      | none =>
        let (e', effects, err) := e.shutdownMeterProvider providerErr
        (e', .closeServer server :: effects, err)

inductive ExporterCall
  | Initialize (config : MetricsConfig) (newErr : Option String)
  | shutdown (serverErr providerErr : Option String)
  deriving DecidableEq, Repr

def MetricsExporter.step (e : MetricsExporter) : ExporterCall → MetricsExporter × List Effect × Option String
  | .Initialize config newErr => e.Initialize config newErr
  | .shutdown serverErr providerErr => e.shutdown serverErr providerErr

def MetricsExporter.run (e : MetricsExporter) : List ExporterCall → MetricsExporter × List Effect
  | [] => (e, [])
  | op :: ops =>
    let (e', effects, _) := e.step op
    let (e'', rest) := e'.run ops
    (e'', effects ++ rest)

-- ---------------------------------------------------------------------------
-- Open servers
-- ---------------------------------------------------------------------------

def openAfter (live : Option Server) : List Effect → Option Server
  | [] => live
  | .listen server :: t => openAfter (some server) t
  | .closeServer server :: t => openAfter (if live = some server then none else live) t
  | _ :: t => openAfter live t

/-- Every server in the trace is started while no other is open. -/
def StartsAlone (live : Option Server) : List Effect → Prop
  | [] => True
  | .listen server :: t => live = none ∧ StartsAlone (some server) t
  | .closeServer server :: t => StartsAlone (if live = some server then none else live) t
  | _ :: t => StartsAlone live t

theorem openAfter_append (live : Option Server) (a b : List Effect) :
    openAfter live (a ++ b) = openAfter (openAfter live a) b := by
  induction a generalizing live with
  | nil => rfl
  | cons eff a ih => cases eff <;> simp [openAfter, ih]

theorem StartsAlone_append (live : Option Server) (a b : List Effect) :
    StartsAlone live (a ++ b) ↔ StartsAlone live a ∧ StartsAlone (openAfter live a) b := by
  induction a generalizing live with
  | nil => simp [StartsAlone, openAfter]
  | cons eff a ih => cases eff <;> simp [StartsAlone, openAfter, ih, and_assoc]

/-- What the exporter's fields say of the open server: an initialized exporter
has a server, and the open server is the exporter's, which is initialized. -/
structure Holds (e : MetricsExporter) (live : Option Server) : Prop where
  server_of_initialized : e.isInitialized = true → e.server.isSome
  open_server : ∀ server, live = some server → e.isInitialized = true ∧ e.server = some server

theorem Holds.zero : Holds MetricsExporter.zero none :=
  ⟨fun h => (nomatch h), fun _ h => (nomatch h)⟩

theorem Holds.eq_none {e : MetricsExporter} {live : Option Server} (h : Holds e live)
    (hinit : e.isInitialized = false) : live = none := by
  cases live with
  | none => rfl
  | some server => simpa [hinit] using (h.open_server server rfl).1

theorem Holds.of_not_initialized {e : MetricsExporter} (hinit : e.isInitialized = false) : Holds e none :=
  ⟨fun h => absurd (hinit ▸ h) Bool.false_ne_true, fun _ h => (nomatch h)⟩

theorem Holds.closed {e : MetricsExporter} {live : Option Server} (h : Holds e live) : Holds e none :=
  ⟨h.1, fun _ h' => (nomatch h')⟩

theorem Holds.close {e : MetricsExporter} {live : Option Server} {server : Server} (h : Holds e live)
    (hserver : e.server = some server) : (if live = some server then none else live) = none := by
  cases live with
  | none => rfl
  | some s =>
    have : s = server := Option.some.inj ((h.open_server s rfl).2.symm.trans hserver)
    simp [this]

section Step

variable {e : MetricsExporter} {live : Option Server}

theorem Holds.shutdownMeterProvider (h : Holds e live) (providerErr : Option String) :
    StartsAlone none (e.shutdownMeterProvider providerErr).2.1 ∧
      Holds (e.shutdownMeterProvider providerErr).1 (openAfter none (e.shutdownMeterProvider providerErr).2.1) := by
  unfold MetricsExporter.shutdownMeterProvider
  split
  · cases providerErr
    · exact ⟨trivial, .of_not_initialized rfl⟩
    · exact ⟨trivial, h.1, fun _ h' => (nomatch h')⟩
  · exact ⟨trivial, .of_not_initialized rfl⟩

theorem Holds.initialize (h : Holds e live) (config : MetricsConfig) (newErr : Option String) :
    StartsAlone live (e.Initialize config newErr).2.1 ∧
      Holds (e.Initialize config newErr).1 (openAfter live (e.Initialize config newErr).2.1) := by
  unfold MetricsExporter.Initialize
  cases hinit : e.isInitialized
  · obtain rfl := h.eq_none hinit
    by_cases hoff : (!config.enabled || config.protocol != "prometheus") = true <;> cases newErr <;>
      simp only [hoff, hinit, if_true, if_false, Bool.false_eq_true] <;>
      exact ⟨by simp [StartsAlone], by simp, by simp [openAfter]⟩
  · simp only [hinit, if_true]
    exact ⟨trivial, h⟩

theorem Holds.shutdown (h : Holds e live) (serverErr providerErr : Option String) :
    StartsAlone live (e.shutdown serverErr providerErr).2.1 ∧
      Holds (e.shutdown serverErr providerErr).1 (openAfter live (e.shutdown serverErr providerErr).2.1) := by
  unfold MetricsExporter.shutdown
  cases hinit : e.isInitialized
  · simp only [hinit, Bool.not_false, if_true]
    exact ⟨trivial, h⟩
  · obtain ⟨server, hserver⟩ := Option.isSome_iff_exists.mp (h.server_of_initialized hinit)
    have hclose := h.close hserver
    simp only [hinit, Bool.not_true, Bool.false_eq_true, if_false, hserver]
    cases serverErr with
    | some err => exact ⟨by simp only [StartsAlone], by simpa only [openAfter, hclose] using h.closed⟩
    | none =>
      simp only [StartsAlone, openAfter, hclose]
      exact h.shutdownMeterProvider providerErr

theorem Holds.step (h : Holds e live) (op : ExporterCall) :
    StartsAlone live (e.step op).2.1 ∧ Holds (e.step op).1 (openAfter live (e.step op).2.1) := by
  cases op with
  | Initialize config newErr => exact h.initialize config newErr
  | shutdown serverErr providerErr => exact h.shutdown serverErr providerErr

/-- A server is started only by an `Initialize` that creates its exporter, for an
enabled `prometheus` config, at that config's endpoint and path. -/
theorem listen_mem_step {server : Server} {op : ExporterCall} (h : Effect.listen server ∈ (e.step op).2.1) :
    ∃ config, op = .Initialize config none ∧ config.enabled = true ∧ config.protocol = "prometheus" ∧
      server = ⟨config.endpoint, config.path⟩ := by
  cases op with
  | Initialize config newErr =>
    simp only [MetricsExporter.step, MetricsExporter.Initialize] at h
    split_ifs at h <;> cases newErr <;> simp_all
  | shutdown serverErr providerErr =>
    simp only [MetricsExporter.step, MetricsExporter.shutdown, MetricsExporter.shutdownMeterProvider] at h
    split_ifs at h <;> (repeat' split at h) <;> simp at h

end Step

theorem Holds.run {e : MetricsExporter} {live : Option Server} (h : Holds e live) (ops : List ExporterCall) :
    StartsAlone live (e.run ops).2 ∧ Holds (e.run ops).1 (openAfter live (e.run ops).2) := by
  induction ops generalizing e live with
  | nil => exact ⟨trivial, h⟩
  | cons op ops ih =>
    obtain ⟨hstep, hholds⟩ := h.step op
    obtain ⟨hrest, hfinal⟩ := ih hholds
    simp only [MetricsExporter.run, StartsAlone_append, openAfter_append]
    exact ⟨⟨hstep, hrest⟩, hfinal⟩

theorem listen_mem_run {e : MetricsExporter} {server : Server} {ops : List ExporterCall}
    (h : Effect.listen server ∈ (e.run ops).2) :
    ∃ config, ExporterCall.Initialize config none ∈ ops ∧ config.enabled = true ∧ config.protocol = "prometheus" ∧
      server = ⟨config.endpoint, config.path⟩ := by
  induction ops generalizing e with
  | nil => cases h
  | cons op ops ih =>
    simp only [MetricsExporter.run, List.mem_append] at h
    rcases h with hstep | hrest
    · obtain ⟨config, rfl, hcfg⟩ := listen_mem_step hstep
      exact ⟨config, List.mem_cons_self _ _, hcfg⟩
    · obtain ⟨config, hmem, hcfg⟩ := ih hrest
      exact ⟨config, List.mem_cons_of_mem _ hmem, hcfg⟩

/-- Over every run from the zero exporter, each server is started while no
other server the exporter started is open, and is the server of an enabled
`prometheus` config given to an `Initialize` whose `prometheus.New` succeeded. -/
theorem MetricsExporter.run_starts_servers_alone (ops : List ExporterCall) :
    (∀ pre server post, (MetricsExporter.zero.run ops).2 = pre ++ .listen server :: post →
      openAfter none pre = none) ∧
    ∀ server, .listen server ∈ (MetricsExporter.zero.run ops).2 →
      ∃ config, ExporterCall.Initialize config none ∈ ops ∧ config.enabled = true ∧ config.protocol = "prometheus" ∧
        server = ⟨config.endpoint, config.path⟩ := by
  refine ⟨fun pre server post htrace => ?_, fun _ => listen_mem_run⟩
  have halone := (Holds.zero.run ops).1
  rw [htrace, StartsAlone_append] at halone
  exact halone.2.1

/-- A `Shutdown` that times out closes the server but leaves the exporter
initialized, so the next `Initialize` starts nothing. -/
example :
    MetricsExporter.zero.run [.Initialize defaultMetricsConfig none, .shutdown (some "context deadline exceeded") none,
        .Initialize defaultMetricsConfig none] =
      (⟨some defaultMetricsConfig, true, some ⟨":9090", "/metrics"⟩, true⟩,
        [.setMeterProvider, .listen ⟨":9090", "/metrics"⟩, .closeServer ⟨":9090", "/metrics"⟩]) := by
  decide


end TektonPruner.Metrics
