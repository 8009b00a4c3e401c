import CertManagerMetrics.RequestCount
import Mathlib.Algebra.BigOperators.Group.List
import Mathlib.Algebra.Ring.Int.Defs

/-!
# The incremental path against the full recomputation

The controllers report every creation of a certificate request with
`IncrementCurrentCertificateRequest` and every deletion with
`DecrementCurrentCertificateRequest`, passing the request's name, namespace and issuer name,
kind and group.  For a history of creations and deletions in which every deletion removes a
live request (`liveAfter`), delivered to the gauge `certificateRequestCount` in any order, the
gauge holds at every tuple the number of live requests that carry it, which is the count that
`UpdateCurrentCertificateRequestCount` assigns the tuple when given the live set
(`deliver_agrees_with_recompute`).  The two paths meet on one tuple because the positional
`WithLabelValues` of the incremental path and the label map of the recomputation name the
labels in the same order (`CertificateRequest.getMetricWith_labels`).
-/

namespace CertManagerMetrics

/-- A change of the set of live certificate requests. -/
inductive Event
  | create (cr : CertificateRequest)
  | delete (cr : CertificateRequest)
  deriving DecidableEq, Repr

namespace Event

/-- The live set after an event: a deletion must remove a live request. -/
def apply (live : List CertificateRequest) : Event → Option (List CertificateRequest)
  | create cr => some (cr :: live)
  | delete cr => if cr ∈ live then some (live.erase cr) else none

/-- The call reporting an event. -/
def report (m : Metrics) : Event → Except LabelError Metrics
  | create cr => m.incrementCurrentCertificateRequest cr.name cr.«namespace»
      cr.spec.issuerRef.name cr.spec.issuerRef.kind cr.spec.issuerRef.group
  | delete cr => m.decrementCurrentCertificateRequest cr.name cr.«namespace»
      cr.spec.issuerRef.name cr.spec.issuerRef.kind cr.spec.issuerRef.group

/-- What an event adds to the number of live requests carrying the tuple `t`. -/
def delta (t : LabelValues certificateLabels) : Event → Int
  | create cr => if cr.tuple = t then 1 else 0
  | delete cr => if cr.tuple = t then -1 else 0

end Event

/-- The live set after a history, from `live`; `none` when a deletion removes a request that
is not live. -/
def liveAfter (live : List CertificateRequest) : List Event → Option (List CertificateRequest)
  | [] => some live
  | e :: es => (e.apply live).bind (liveAfter · es)

/-- The reports of the events `d`, delivered in that order. -/
def deliver (m : Metrics) (d : List Event) : Except LabelError Metrics := d.foldlM Event.report m

theorem count_erase {crs : List CertificateRequest} {cr : CertificateRequest} (h : cr ∈ crs)
    (t : LabelValues certificateLabels) :
    count (crs.erase cr) t + (if cr.tuple = t then 1 else 0) = count crs t := by
  induction crs with
  | nil => cases h
  | cons a crs ih =>
    by_cases ha : a = cr
    · subst ha; simp
    · have hne : (a == cr) = false := by simpa using ha
      simp only [List.erase_cons, hne, Bool.false_eq_true, if_false, count_cons]
      rw [Nat.add_right_comm, ih (List.mem_of_ne_of_mem (Ne.symm ha) h)]

/-- **The live set counts each tuple by the sum of the events' deltas.** -/
theorem count_liveAfter {live live' : List CertificateRequest} {h : List Event}
    (hh : liveAfter live h = some live') (t : LabelValues certificateLabels) :
    (count live' t : Int) = count live t + (h.map (·.delta t)).sum := by
  induction h generalizing live with
  | nil => cases hh; simp
  | cons e h ih =>
    simp only [liveAfter, Option.bind_eq_some] at hh
    obtain ⟨live₁, h₁, hh⟩ := hh
    rw [ih hh, List.map_cons, List.sum_cons, ← add_assoc]
    congr 1
    cases e with
    | create cr =>
      cases h₁
      rw [Event.delta, count_cons]
      split_ifs <;> simp
    | delete cr =>
      simp only [Event.apply] at h₁
      split_ifs at h₁ with hm
      cases h₁
      rw [Event.delta, ← count_erase hm t]
      split_ifs <;> simp

/-- **A report adds the event's delta at every tuple.** -/
theorem report_value (m : Metrics) (e : Event) :
    ∃ m', e.report m = .ok m' ∧ ∀ t, m'.certificateRequestCount.value t =
      m.certificateRequestCount.value t + e.delta t := by
  cases e <;> refine ⟨_, Metrics.adjustCurrentCertificateRequest_eq .., fun t => ?_⟩ <;>
    simp [Event.delta, CertificateRequest.tuple, eq_comm]

theorem deliver_value (m : Metrics) (d : List Event) :
    ∃ m', deliver m d = .ok m' ∧ ∀ t, m'.certificateRequestCount.value t =
      m.certificateRequestCount.value t + (d.map (·.delta t)).sum := by
  induction d generalizing m with
  | nil => exact ⟨m, rfl, fun t => by simp⟩
  | cons e d ih =>
    obtain ⟨m₁, h₁, hv₁⟩ := report_value m e
    obtain ⟨m', h', hv'⟩ := ih m₁
    refine ⟨m', by simpa [deliver, h₁] using h', fun t => ?_⟩
    rw [hv', hv₁, List.map_cons, List.sum_cons, add_assoc]

theorem value_histogram (crs : List CertificateRequest) (t : LabelValues certificateLabels) :
    (histogram crs).value t = count crs t := by
  by_cases h : count crs t = 0 <;> simp [histogram, MetricVec.value, h]

/-- An incremental update changes nothing but the log and the child of its own tuple of
`certificateRequestCount`, to which it adds `d`. -/
theorem adjustCurrentCertificateRequest_frame (m : Metrics) (msg : String) (d : Int)
    (name «namespace» issuerName issuerKind issuerGroup : String) :
    ∃ m', m.adjustCurrentCertificateRequest msg d name «namespace» issuerName issuerKind
        issuerGroup = .ok m' ∧
      m' = { m with log := m'.log, certificateRequestCount := m'.certificateRequestCount } ∧
      m'.certificateRequestCount.value
          (Metrics.requestTuple name «namespace» issuerName issuerKind issuerGroup) =
        m.certificateRequestCount.value
          (Metrics.requestTuple name «namespace» issuerName issuerKind issuerGroup) + d ∧
      ∀ t ≠ Metrics.requestTuple name «namespace» issuerName issuerKind issuerGroup,
        m'.certificateRequestCount.children t = m.certificateRequestCount.children t :=
  ⟨_, Metrics.adjustCurrentCertificateRequest_eq .., rfl, by simp,
    fun _ ht => MetricVec.add_children_of_ne _ _ ht⟩

/-- **The incremental path agrees with the full recomputation.**  For every history of
creations and deletions from the empty set in which each deletion removes a live request,
reported in any order to a gauge without children, the gauge holds at every tuple the count
that `UpdateCurrentCertificateRequestCount` assigns it from the final live set; and each
`IncrementCurrentCertificateRequest` or `DecrementCurrentCertificateRequest` changes only the
log and its own tuple of that gauge, by one. -/
theorem deliver_agrees_with_recompute (h : List Event) (live : List CertificateRequest)
    (hh : liveAfter [] h = some live) (d : List Event) (hd : d.Perm h) (m : Metrics)
    (hm : m.certificateRequestCount = .empty) (p : Process) :
    (∃ m' p', deliver m d = .ok m' ∧
      WithReset.updateCurrentCertificateRequestCount p live = .ok p' ∧
      ∀ t, m'.certificateRequestCount.value t = p'.currentCertificateRequestCount.value t) ∧
    (∀ (m₀ : Metrics) (name «namespace» issuerName issuerKind issuerGroup : String),
      ∃ m', m₀.incrementCurrentCertificateRequest name «namespace» issuerName issuerKind
          issuerGroup = .ok m' ∧
        m' = { m₀ with log := m'.log, certificateRequestCount := m'.certificateRequestCount } ∧
        m'.certificateRequestCount.value
            (Metrics.requestTuple name «namespace» issuerName issuerKind issuerGroup) =
          m₀.certificateRequestCount.value
            (Metrics.requestTuple name «namespace» issuerName issuerKind issuerGroup) + 1 ∧
        ∀ t ≠ Metrics.requestTuple name «namespace» issuerName issuerKind issuerGroup,
          m'.certificateRequestCount.children t = m₀.certificateRequestCount.children t) ∧
    (∀ (m₀ : Metrics) (name «namespace» issuerName issuerKind issuerGroup : String),
      ∃ m', m₀.decrementCurrentCertificateRequest name «namespace» issuerName issuerKind
          issuerGroup = .ok m' ∧
        m' = { m₀ with log := m'.log, certificateRequestCount := m'.certificateRequestCount } ∧
        m'.certificateRequestCount.value
            (Metrics.requestTuple name «namespace» issuerName issuerKind issuerGroup) =
          m₀.certificateRequestCount.value
            (Metrics.requestTuple name «namespace» issuerName issuerKind issuerGroup) - 1 ∧
        ∀ t ≠ Metrics.requestTuple name «namespace» issuerName issuerKind issuerGroup,
          m'.certificateRequestCount.children t = m₀.certificateRequestCount.children t) := by
  refine ⟨?_, fun m₀ => adjustCurrentCertificateRequest_frame m₀ _ 1,
    fun m₀ => adjustCurrentCertificateRequest_frame m₀ _ (-1)⟩
  obtain ⟨m', hd', hv'⟩ := deliver_value m d
  refine ⟨m', _, hd', WithReset.updateCurrentCertificateRequestCount_eq p live, fun t => ?_⟩
  calc m'.certificateRequestCount.value t
      = (d.map (·.delta t)).sum := by simp [hv', hm]
    _ = (h.map (·.delta t)).sum := (hd.map _).sum_eq
    _ = count live t := by simpa using (count_liveAfter hh t).symm
    _ = (histogram live).value t := by rw [value_histogram]

/-- Two requests created and the first deleted, the deletion reported first. -/
theorem deliver_agrees_with_recompute_delete_first :
    let r : CertificateRequest := ⟨"a", "default", ⟨⟨"ca", "Issuer", "cert-manager.io"⟩⟩⟩
    let r' : CertificateRequest := ⟨"b", "default", ⟨⟨"ca", "Issuer", "cert-manager.io"⟩⟩⟩
    liveAfter [] [.create r, .create r', .delete r] = some [r'] ∧
    [Event.delete r, .create r', .create r].Perm [.create r, .create r', .delete r] ∧
    Metrics.new.certificateRequestCount = .empty ∧
    ((∃ m' p', deliver Metrics.new [.delete r, .create r', .create r] = .ok m' ∧
      WithReset.updateCurrentCertificateRequestCount Process.init [r'] = .ok p' ∧
      ∀ t, m'.certificateRequestCount.value t = p'.currentCertificateRequestCount.value t) ∧
    (∀ (m₀ : Metrics) (name «namespace» issuerName issuerKind issuerGroup : String),
      ∃ m', m₀.incrementCurrentCertificateRequest name «namespace» issuerName issuerKind
          issuerGroup = .ok m' ∧
        m' = { m₀ with log := m'.log, certificateRequestCount := m'.certificateRequestCount } ∧
        m'.certificateRequestCount.value
            (Metrics.requestTuple name «namespace» issuerName issuerKind issuerGroup) =
          m₀.certificateRequestCount.value
            (Metrics.requestTuple name «namespace» issuerName issuerKind issuerGroup) + 1 ∧
        ∀ t ≠ Metrics.requestTuple name «namespace» issuerName issuerKind issuerGroup,
          m'.certificateRequestCount.children t = m₀.certificateRequestCount.children t) ∧
    (∀ (m₀ : Metrics) (name «namespace» issuerName issuerKind issuerGroup : String),
      ∃ m', m₀.decrementCurrentCertificateRequest name «namespace» issuerName issuerKind
          issuerGroup = .ok m' ∧
        m' = { m₀ with log := m'.log, certificateRequestCount := m'.certificateRequestCount } ∧
        m'.certificateRequestCount.value
            (Metrics.requestTuple name «namespace» issuerName issuerKind issuerGroup) =
          m₀.certificateRequestCount.value
            (Metrics.requestTuple name «namespace» issuerName issuerKind issuerGroup) - 1 ∧
        ∀ t ≠ Metrics.requestTuple name «namespace» issuerName issuerKind issuerGroup,
          m'.certificateRequestCount.children t = m₀.certificateRequestCount.children t)) := by
  intro r r'
  have hh : liveAfter [] [.create r, .create r', .delete r] = some [r'] := by decide
  have hd : [Event.delete r, .create r', .create r].Perm [.create r, .create r', .delete r] := by
    decide
  exact ⟨hh, hd, rfl, deliver_agrees_with_recompute _ _ hh _ hd Metrics.new rfl Process.init⟩

end CertManagerMetrics
