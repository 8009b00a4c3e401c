import CertManagerMetrics.Metrics

/-!
# The full recomputation of `current_certificate_request_count`

The request-count update exists in two versions.  Both list the certificate requests and
increment, for every record of the snapshot, the child of its tuple (name, namespace, issuer
name, kind and group) of the package-level counter vector `currentCertificateRequestCount`,
which `promauto` registers with the library's default registry.

* `NoReset` : the version that logs a failed list with the standard logger and increments
  the vector as it is;
* `WithReset` : the version that logs through `m.log` and calls `Reset` before
  incrementing.

The loop shared by both, `incrementEach`, never panics: the label map of a record names the
five labels of the vector (`CertificateRequest.getMetricWith_labels`), so it adds the
record's label-tuple histogram to the vector (`incrementEach_eq`).

`Process` is the state of the package: the shared `Metrics`, the package-level vector and the
lines printed by the standard logger.  The list call is outside the package; its result is an
argument of `HandleCertificateRequestEvent`.
-/

namespace CertManagerMetrics

/-- `cmmeta.ObjectReference`: the fields of the issuer reference the package reads. -/
structure ObjectReference where
  /-- `Name`. -/
  name : String
  /-- `Kind`. -/
  kind : String
  /-- `Group`. -/
  group : String
  deriving DecidableEq, Repr

/-- `cmapi.CertificateRequestSpec`: the field the package reads. -/
structure CertificateRequestSpec where
  /-- `IssuerRef`. -/
  issuerRef : ObjectReference
  deriving DecidableEq, Repr

/-- `cmapi.CertificateRequest`: the fields the package reads. -/
structure CertificateRequest where
  /-- `Name`. -/
  name : String
  /-- `Namespace`. -/
  «namespace» : String
  /-- `Spec`. -/
  spec : CertificateRequestSpec
  deriving DecidableEq, Repr

namespace CertificateRequest

/-- The `prometheus.Labels` literal built for a record. -/
def labels (cr : CertificateRequest) : Labels :=
  [("name", cr.name), ("namespace", cr.«namespace»), ("issuer_name", cr.spec.issuerRef.name),
    ("issuer_kind", cr.spec.issuerRef.kind), ("issuer_group", cr.spec.issuerRef.group)]

/-- The tuple of a record in `certificateRequestCount` and `currentCertificateRequestCount`. -/
def tuple (cr : CertificateRequest) : LabelValues certificateLabels :=
  Metrics.requestTuple cr.name cr.«namespace» cr.spec.issuerRef.name cr.spec.issuerRef.kind
    cr.spec.issuerRef.group

/-- The label map of a record names the variable labels of the vector, and `With` finds in it
the tuple that the positional `WithLabelValues` of the incremental path uses. -/
theorem getMetricWith_labels (cr : CertificateRequest) :
    getMetricWith certificateLabels cr.labels = .ok cr.tuple := by
  simp [getMetricWith, extractLabelValues, labels, certificateLabels, tuple, Metrics.requestTuple,
    List.lookup_cons, Except.map]

end CertificateRequest

/-- The number of records of `crs` that carry the tuple `t`. -/
def count (crs : List CertificateRequest) (t : LabelValues certificateLabels) : Nat :=
  crs.countP (·.tuple = t)

@[simp] theorem count_nil (t : LabelValues certificateLabels) : count [] t = 0 := rfl

@[simp] theorem count_cons (cr : CertificateRequest) (crs : List CertificateRequest)
    (t : LabelValues certificateLabels) :
    count (cr :: crs) t = count crs t + if cr.tuple = t then 1 else 0 := by
  simp [count, List.countP_cons]

@[simp] theorem count_append (crs crs' : List CertificateRequest)
    (t : LabelValues certificateLabels) : count (crs ++ crs') t = count crs t + count crs' t :=
  List.countP_append _ _ _

/-- A tuple is counted in a snapshot exactly when a record of it carries the tuple. -/
theorem count_ne_zero_iff {crs : List CertificateRequest} {t : LabelValues certificateLabels} :
    count crs t ≠ 0 ↔ t ∈ (crs.map CertificateRequest.tuple).toFinset := by
  simp [count, List.countP_eq_zero]

/-- The vector `v` with the label-tuple histogram of `crs` added to it. -/
def addCounts (v : MetricVec certificateLabels Nat) (crs : List CertificateRequest) :
    MetricVec certificateLabels Nat where
  children t := if count crs t = 0 then v.children t else some (v.value t + count crs t)
  support := v.support ∪ (crs.map CertificateRequest.tuple).toFinset
  mem_support t := by
    rw [Finset.mem_union, v.mem_support, ← count_ne_zero_iff]
    by_cases h : count crs t = 0 <;> simp [h]

/-- The label-tuple histogram of a snapshot: a child for each tuple that occurs in it, holding
the number of records that carry it. -/
def histogram (crs : List CertificateRequest) : MetricVec certificateLabels Nat where
  children t := if count crs t = 0 then none else some (count crs t)
  support := (crs.map CertificateRequest.tuple).toFinset
  mem_support t := by
    rw [← count_ne_zero_iff]
    by_cases h : count crs t = 0 <;> simp [h]

theorem addCounts_empty (crs : List CertificateRequest) :
    addCounts .empty crs = histogram crs := by
  ext1; funext t; simp [addCounts, histogram]

theorem addCounts_nil (v : MetricVec certificateLabels Nat) : addCounts v [] = v := by
  ext1; funext t; simp [addCounts]

theorem addCounts_cons (v : MetricVec certificateLabels Nat) (cr : CertificateRequest)
    (crs : List CertificateRequest) : addCounts v (cr :: crs) = addCounts (v.add cr.tuple 1) crs := by
  ext1; funext t
  simp only [addCounts, count_cons, MetricVec.value_add, MetricVec.add_children]
  by_cases h : t = cr.tuple
  · subst h
    by_cases h0 : count crs cr.tuple = 0 <;> simp [h0, Nat.add_assoc, Nat.add_comm 1]
  · simp [h, Ne.symm h]

theorem addCounts_append (v : MetricVec certificateLabels Nat) (crs crs' : List CertificateRequest) :
    addCounts (addCounts v crs) crs' = addCounts v (crs ++ crs') := by
  ext1; funext t
  by_cases h : count crs t = 0 <;> by_cases h' : count crs' t = 0 <;>
    simp [addCounts, MetricVec.value, h, h', Nat.add_assoc]

/-- The loop shared by both versions: `With(labels).Inc()` for each record, in order. -/
def incrementEach (crs : List CertificateRequest) (v : MetricVec certificateLabels Nat) :
    Except LabelError (MetricVec certificateLabels Nat) :=
  crs.foldlM (fun v cr => v.addWith cr.labels 1) v

/-- **The loop never panics and adds the histogram of the snapshot.** -/
theorem incrementEach_eq (crs : List CertificateRequest) (v : MetricVec certificateLabels Nat) :
    incrementEach crs v = .ok (addCounts v crs) := by
  induction crs generalizing v with
  | nil => simp [incrementEach, addCounts_nil, pure, Except.pure]
  | cons cr crs ih =>
    simp only [incrementEach, List.foldlM_cons] at ih ⊢
    rw [MetricVec.addWith_of_getMetricWith _ _ cr.getMetricWith_labels, addCounts_cons]
    exact ih _

/-- The state of the package. -/
structure Process where
  /-- The shared `Metrics`. -/
  metrics : Metrics
  /-- The package-level `currentCertificateRequestCount`. -/
  currentCertificateRequestCount : MetricVec certificateLabels Nat
  /-- The lines printed with the standard logger. -/
  stdLog : List String

/-- The package after initialisation and `New`: no entry logged, the package-level vector
without children. -/
def Process.init : Process := ⟨Metrics.new, .empty, []⟩

namespace NoReset

/-- `UpdateCurrentCertificateRequestCount` without `Reset`. -/
def updateCurrentCertificateRequestCount (p : Process) (crs : List CertificateRequest) :
    Except LabelError Process := do
  let v ← incrementEach crs p.currentCertificateRequestCount
  pure { p with currentCertificateRequestCount := v }

/-- `HandleCertificateRequestEvent` of the version without `Reset`, given the result of the
list call. -/
def handleCertificateRequestEvent (p : Process) (list : Except String (List CertificateRequest)) :
    Except LabelError Process :=
  match list with
  | .error err => .ok { p with stdLog := p.stdLog ++ ["Error fetching CertificateRequests: " ++ err] }
  | .ok crs => updateCurrentCertificateRequestCount p crs

theorem updateCurrentCertificateRequestCount_eq (p : Process) (crs : List CertificateRequest) :
    updateCurrentCertificateRequestCount p crs =
      .ok { p with currentCertificateRequestCount := addCounts p.currentCertificateRequestCount crs } := by
  simp [updateCurrentCertificateRequestCount, incrementEach_eq, bind, Except.bind, pure, Except.pure]

end NoReset

namespace WithReset

/-- `UpdateCurrentCertificateRequestCount` with `Reset`. -/
def updateCurrentCertificateRequestCount (p : Process) (crs : List CertificateRequest) :
    Except LabelError Process := do
  let v ← incrementEach crs p.currentCertificateRequestCount.reset
  pure { p with currentCertificateRequestCount := v }

/-- `HandleCertificateRequestEvent` of the version with `Reset`, given the result of the list
call. -/
def handleCertificateRequestEvent (p : Process) (list : Except String (List CertificateRequest)) :
    Except LabelError Process :=
  match list with
  | .error err =>
    .ok { p with metrics := { p.metrics with
      log := p.metrics.log ++ [.error (.list err) "Error fetching CertificateRequests" []] } }
  | .ok crs => updateCurrentCertificateRequestCount p crs

/-- **The recomputation replaces the vector by the histogram of the snapshot**, whatever it
held before. -/
theorem updateCurrentCertificateRequestCount_eq (p : Process) (crs : List CertificateRequest) :
    updateCurrentCertificateRequestCount p crs =
      .ok { p with currentCertificateRequestCount := histogram crs } := by
  simp [updateCurrentCertificateRequestCount, incrementEach_eq, addCounts_empty, bind,
    Except.bind, pure, Except.pure]

end WithReset

end CertManagerMetrics
