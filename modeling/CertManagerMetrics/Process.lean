import CertManagerMetrics.RequestCount
import CertManagerMetrics.Server
import Mathlib.Algebra.BigOperators.Group.List
import Mathlib.Algebra.Ring.Int.Defs

/-!
# The package as a state machine

`Process.step` is the effect of one call into the package on its state `Process`, with the
version of the request-count update that calls `Reset`; `Process.run` is a sequence of calls.

The recomputation writes the package-level vector, which `promauto` registered with the
library's default registry, while the handler of `NewServer` gathers `m.registry`, whose
`current_certificate_request_count` is the gauge `certificateRequestCount` of the incremental
path.  So what that handler serves for the name is the gauge alone
(`recompute_not_served`).

* `Process.step_spec` : every call succeeds; it recomputes the package-level vector from its
  snapshot if it has one, adds its delta to the child of the one tuple of the gauge it
  adjusts, if any, and leaves the registry alone unless it is `NewServer`;
* `Process.run_spec` : the same over every sequence of calls, the registry holding all the
  collectors or none and flipping at each `NewServer`;
* `run_init_serves_incremental_count` : from the start of the process, the handler serves
  `current_certificate_request_count` only after an odd number of `NewServer` calls and once
  an increment or a decrement has been reported, and then serves a sample exactly at the
  tuples reported, each the net number of increments and decrements reported for it;
* `run_init_no_register_error` : from the start of the process, `NewServer` never logs a
  refused registration.
-/

namespace CertManagerMetrics

/-- The calls into the package. -/
inductive Op
  | newServer (addr : String)
  | incrementSyncCallCount (controllerName : String)
  | incrementSyncErrorCount (controllerName : String)
  | incrementCurrentCertificateRequest (name «namespace» issuerName issuerKind issuerGroup : String)
  | decrementCurrentCertificateRequest (name «namespace» issuerName issuerKind issuerGroup : String)
  | updateCurrentCertificateRequestCount (crs : List CertificateRequest)
  | handleCertificateRequestEvent (list : Except String (List CertificateRequest))

namespace Op

/-- The snapshot from which a call recomputes the package-level vector, if any. -/
def snapshot : Op → Option (List CertificateRequest)
  | updateCurrentCertificateRequestCount crs | handleCertificateRequestEvent (.ok crs) => some crs
  | _ => none

/-- The call is `NewServer`. -/
def isNewServer : Op → Bool
  | newServer _ => true
  | _ => false

/-- The tuple of the gauge `certificateRequestCount` whose child a call adjusts, if any. -/
def adjusted : Op → Option (LabelValues certificateLabels)
  | incrementCurrentCertificateRequest name ns issuerName issuerKind issuerGroup
  | decrementCurrentCertificateRequest name ns issuerName issuerKind issuerGroup =>
    some (Metrics.requestTuple name ns issuerName issuerKind issuerGroup)
  | _ => none

/-- What a call adds to the gauge `certificateRequestCount` at the tuple `t`. -/
def delta (t : LabelValues certificateLabels) : Op → Int
  | incrementCurrentCertificateRequest name ns issuerName issuerKind issuerGroup =>
    if t = Metrics.requestTuple name ns issuerName issuerKind issuerGroup then 1 else 0
  | decrementCurrentCertificateRequest name ns issuerName issuerKind issuerGroup =>
    if t = Metrics.requestTuple name ns issuerName issuerKind issuerGroup then -1 else 0
  | _ => 0

/-- A call adds nothing at a tuple it does not adjust. -/
theorem delta_eq_zero {op : Op} {t : LabelValues certificateLabels} (h : op.adjusted ≠ some t) :
    op.delta t = 0 := by
  cases op <;> simp_all [adjusted, delta, eq_comm]

end Op

namespace Process

/-- `p` with the shared `Metrics` replaced. -/
def setMetrics (p : Process) (m : Metrics) : Process := { p with metrics := m }

@[simp] theorem setMetrics_metrics (p : Process) (m : Metrics) : (p.setMetrics m).metrics = m :=
  rfl

@[simp] theorem setMetrics_currentCertificateRequestCount (p : Process) (m : Metrics) :
    (p.setMetrics m).currentCertificateRequestCount = p.currentCertificateRequestCount := rfl

/-- The effect of one call. -/
def step (p : Process) : Op → Except LabelError Process
  | .newServer addr => .ok (p.setMetrics (p.metrics.newServer addr).1)
  | .incrementSyncCallCount c => (p.metrics.incrementSyncCallCount c).map p.setMetrics
  | .incrementSyncErrorCount c => (p.metrics.incrementSyncErrorCount c).map p.setMetrics
  | .incrementCurrentCertificateRequest name ns issuerName issuerKind issuerGroup =>
    (p.metrics.incrementCurrentCertificateRequest name ns issuerName issuerKind issuerGroup).map
      p.setMetrics
  | .decrementCurrentCertificateRequest name ns issuerName issuerKind issuerGroup =>
    (p.metrics.decrementCurrentCertificateRequest name ns issuerName issuerKind issuerGroup).map
      p.setMetrics
  | .updateCurrentCertificateRequestCount crs => WithReset.updateCurrentCertificateRequestCount p crs
  | .handleCertificateRequestEvent list => WithReset.handleCertificateRequestEvent p list

theorem step_newServer (p : Process) (addr : String) :
    p.step (.newServer addr) = .ok (p.setMetrics (p.metrics.newServer addr).1) := rfl

/-- A sequence of calls. -/
def run (p : Process) (ops : List Op) : Except LabelError Process := ops.foldlM step p

/-- **Every call succeeds, with this effect on what the handlers read**: the package-level
vector is recomputed from the call's snapshot if it has one, the gauge of the incremental path
gets the call's delta at the child of the tuple it adjusts, created if need be, and only
`NewServer` touches the registry. -/
theorem step_spec (p : Process) (op : Op) :
    ∃ p', p.step op = .ok p' ∧
      p'.currentCertificateRequestCount =
        (op.snapshot.map histogram).getD p.currentCertificateRequestCount ∧
      (∀ t, p'.metrics.certificateRequestCount.children t =
        if op.adjusted = some t then some (p.metrics.certificateRequestCount.value t + op.delta t)
        else p.metrics.certificateRequestCount.children t) ∧
      ((∃ addr, op = .newServer addr ∧ p'.metrics = (p.metrics.newServer addr).1) ∨
        (op.isNewServer = false ∧ p'.metrics.registry = p.metrics.registry)) ∧
      (p.metrics.registry.DimsAgreeAll →
        p'.metrics.log.filter LogEntry.isRegisterError =
          p.metrics.log.filter LogEntry.isRegisterError) := by
  cases op with
  | newServer addr =>
    have hf := Metrics.newServer_frame p.metrics addr
    have hl := Metrics.newServer_registerErrors p.metrics addr
    rw [step_newServer]
    generalize hm : (p.metrics.newServer addr).1 = m' at hf hl ⊢
    refine ⟨_, rfl, rfl, fun t => ?_, .inl ⟨addr, rfl, hm.symm⟩, hl⟩
    rw [← hf]
    rfl
  | incrementSyncCallCount c | incrementSyncErrorCount c =>
    simp only [step, Metrics.incrementSyncCallCount, Metrics.incrementSyncErrorCount,
      Metrics.incrementSyncCount_eq]
    exact ⟨_, rfl, rfl, fun t => rfl, .inr ⟨rfl, rfl⟩, fun _ => rfl⟩
  | incrementCurrentCertificateRequest name ns issuerName issuerKind issuerGroup
  | decrementCurrentCertificateRequest name ns issuerName issuerKind issuerGroup =>
    refine ⟨_, congrArg (Except.map p.setMetrics) (Metrics.adjustCurrentCertificateRequest_eq ..),
      rfl, fun t => ?_, .inr ⟨rfl, rfl⟩, fun _ => by simp [LogEntry.isRegisterError]⟩
    by_cases h : t = Metrics.requestTuple name ns issuerName issuerKind issuerGroup
    · subst h
      simp [Op.adjusted, Op.delta]
    · simp [Op.adjusted, MetricVec.add_children, h, Ne.symm h]
  | updateCurrentCertificateRequestCount crs =>
    exact ⟨_, WithReset.updateCurrentCertificateRequestCount_eq p crs, rfl,
      fun t => rfl, .inr ⟨rfl, rfl⟩, fun _ => rfl⟩
  | handleCertificateRequestEvent list =>
    cases list with
    | error err =>
      exact ⟨_, rfl, rfl, fun t => rfl, .inr ⟨rfl, rfl⟩,
        fun _ => by simp [LogEntry.isRegisterError]⟩
    | ok crs =>
      exact ⟨_, WithReset.updateCurrentCertificateRequestCount_eq p crs, rfl,
        fun t => rfl, .inr ⟨rfl, rfl⟩, fun _ => rfl⟩

/-- **Along every sequence of calls**: no call panics; the package-level vector is the
histogram of the last snapshot a call recomputed from, or the vector it started from; the
gauge of the incremental path has a child at each tuple some call adjusted, moved by the sum of
the calls' deltas, and is unchanged elsewhere; and the registry holds all the collectors or
none, flipped by each `NewServer`. -/
theorem run_spec (p : Process) (ops : List Op) :
    ∃ p', p.run ops = .ok p' ∧
      p'.currentCertificateRequestCount =
        ((ops.filterMap Op.snapshot).getLast?.map histogram).getD p.currentCertificateRequestCount ∧
      (∀ t, p'.metrics.certificateRequestCount.children t =
        if ∃ op ∈ ops, op.adjusted = some t
        then some (p.metrics.certificateRequestCount.value t + (ops.map (·.delta t)).sum)
        else p.metrics.certificateRequestCount.children t) ∧
      (∀ b, p.metrics.AllOrNone b →
        p'.metrics.AllOrNone (b ^^ decide (ops.countP Op.isNewServer % 2 = 1)) ∧
        p'.metrics.log.filter LogEntry.isRegisterError =
          p.metrics.log.filter LogEntry.isRegisterError) := by
  induction ops generalizing p with
  | nil => exact ⟨p, rfl, rfl, fun t => by simp, fun b hb => ⟨by simpa using hb, rfl⟩⟩
  | cons op ops ih =>
    obtain ⟨p₁, h₁, hv₁, hc₁, hr₁, hl₁⟩ := step_spec p op
    obtain ⟨p', h', hv', hc', hr'⟩ := ih p₁
    refine ⟨p', by rw [run, List.foldlM_cons, h₁]; exact h', ?_, fun t => ?_, fun b hb => ?_⟩
    · rw [hv', hv₁]
      cases hs : op.snapshot with
      | none => rw [List.filterMap_cons_none hs]; rfl
      | some crs =>
        rw [List.filterMap_cons_some hs, List.getLast?_cons]
        cases (ops.filterMap Op.snapshot).getLast? <;> rfl
    · have hv : p₁.metrics.certificateRequestCount.value t =
          p.metrics.certificateRequestCount.value t + op.delta t := by
        rw [MetricVec.value, hc₁]
        split_ifs with h
        · rfl
        · rw [Op.delta_eq_zero h, add_zero]; rfl
      rw [hc', hv, hc₁, List.map_cons, List.sum_cons, ← add_assoc]
      by_cases hs : ∃ o ∈ ops, o.adjusted = some t
      · simp [hs]
      · have h0 : (ops.map (·.delta t)).sum = 0 :=
          List.sum_eq_zero fun d hd => by
            obtain ⟨o, ho, rfl⟩ := List.mem_map.1 hd
            exact Op.delta_eq_zero fun h => hs ⟨o, ho, h⟩
        by_cases ho : op.adjusted = some t <;> simp [hs, ho, h0]
    · rw [← hl₁ hb.1]
      rcases hr₁ with ⟨addr, rfl, hm⟩ | ⟨hn, hreg⟩
      · have := hr' _ ((hb.newServer addr).of_registry_eq (congrArg Metrics.registry hm))
        rwa [Metrics.xor_parity_succ,
          ← List.countP_cons_of_pos _ ops (show (Op.newServer addr).isNewServer = true from rfl)]
          at this
      · have := hr' b (hb.of_registry_eq hreg)
        rwa [← List.countP_cons_of_neg _ ops (show ¬op.isNewServer = true by simp [hn])] at this

end Process

/-- **What the process serves after any sequence of calls from its start.**  No call panics;
the registry holds every collector after an odd number of `NewServer` calls and none after an
even number; the handler serves `current_certificate_request_count` when the registry holds
it and some `IncrementCurrentCertificateRequest` or `DecrementCurrentCertificateRequest` call
has created a child, and then its samples are at the tuples those calls named, each the number
of increments for it minus the number of decrements, whatever the recomputations did; and the
package-level vector that the recomputations write is the histogram of the last snapshot. -/
theorem run_init_serves_incremental_count (ops : List Op) (now : Int) :
    ∃ p', Process.init.run ops = .ok p' ∧
      (∀ c : Collector, p'.metrics.registry.collectorsByID c.desc.fqName =
        if ops.countP Op.isNewServer % 2 = 1 then some c else none) ∧
      (∀ t, (p'.metrics.gather now "current_certificate_request_count").map (·.samples t.vals) =
        if ops.countP Op.isNewServer % 2 = 1 ∧ ∃ op ∈ ops, op.adjusted.isSome then
          some (if ∃ op ∈ ops, op.adjusted = some t then some (ops.map (·.delta t)).sum else none)
        else none) ∧
      p'.currentCertificateRequestCount =
        ((ops.filterMap Op.snapshot).getLast?.map histogram).getD .empty := by
  obtain ⟨p', h', hv', hc', hr'⟩ := Process.init.run_spec ops
  have hr := (hr' false Metrics.allOrNone_new).1
  simp only [Bool.false_xor] at hr
  have hname : "current_certificate_request_count" = Collector.certificateRequestCount.desc.fqName :=
    rfl
  have hc : ∀ t, p'.metrics.certificateRequestCount.children t =
      if ∃ op ∈ ops, op.adjusted = some t then some (ops.map (·.delta t)).sum else none :=
    fun t => by simpa [Process.init, Metrics.new] using hc' t
  have hs : p'.metrics.hasSamples .certificateRequestCount = true ↔
      ∃ op ∈ ops, op.adjusted.isSome := by
    rw [Metrics.hasSamples, MetricVec.hasChildren_iff]
    constructor
    · rintro ⟨k, hk⟩
      rw [hc] at hk
      split_ifs at hk with h
      · obtain ⟨op, hop, ha⟩ := h
        exact ⟨op, hop, by rw [ha]; rfl⟩
      · exact absurd hk Bool.false_ne_true
    · rintro ⟨op, hop, ha⟩
      obtain ⟨k, hk⟩ := Option.isSome_iff_exists.1 ha
      exact ⟨k, by rw [hc, if_pos ⟨op, hop, hk⟩]; rfl⟩
  refine ⟨p', h', fun c => by rw [hr.2, Collector.ofName_desc]; simp, fun t => ?_, hv'⟩
  rw [Metrics.gather, hname, hr.2, Collector.ofName_desc]
  by_cases hk : ops.countP Op.isNewServer % 2 = 1
  · by_cases ha : ∃ op ∈ ops, op.adjusted.isSome
    · simp [hk, ha, hs.2 ha, Metrics.collect, hc, apply_ite (Option.map id)]
    · simp [hk, ha, mt hs.1 ha]
  · simp [hk]

/-- **No sequence of calls from the start of the process makes `NewServer` log a refused
registration**: the branch of its loop that logs `Failed to register metric` is never taken,
since the dimensions it recorded for a name, which `Unregister` keeps, are those of the one
collector of that name. -/
theorem run_init_no_register_error (ops : List Op) :
    ∃ p', Process.init.run ops = .ok p' ∧ ∀ e ∈ p'.metrics.log, e.isRegisterError = false := by
  obtain ⟨p', h', -, -, hr'⟩ := Process.init.run_spec ops
  refine ⟨p', h', fun e he => ?_⟩
  have hl : p'.metrics.log.filter LogEntry.isRegisterError = [] :=
    (hr' false Metrics.allOrNone_new).2
  simpa using List.filter_eq_nil_iff.1 hl e he

/-- After `New`, one `NewServer` and a recomputation from a snapshot holding the one record
`r`, the package-level vector has the child 1 at the tuple of `r`, and the handler serves no
family `current_certificate_request_count` at all: the collector it registered has no child. -/
theorem recompute_not_served :
    let r : CertificateRequest := ⟨"a", "default", ⟨⟨"ca", "Issuer", "cert-manager.io"⟩⟩⟩
    (Process.init.run [.newServer "0.0.0.0:9402", .updateCurrentCertificateRequestCount [r]]).map
      (fun p => ((p.metrics.gather 0 "current_certificate_request_count").isSome,
        p.currentCertificateRequestCount.children r.tuple)) = .ok (false, some 1) := by
  intro r
  rfl

end CertManagerMetrics
