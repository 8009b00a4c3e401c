import CertManagerMetrics.RequestCount

/-!
# Runs of `HandleCertificateRequestEvent`

Successive calls of `HandleCertificateRequestEvent`, the list call of each returning a
snapshot or failing:

* `WithReset.handleRun_currentCertificateRequestCount` : with `Reset`, the vector after the run
  is the label-tuple histogram of the last snapshot that a list call returned, and it is left
  as it was when every list call failed;
* `NoReset.handleRun_currentCertificateRequestCount` : without `Reset`, the histograms of all
  the snapshots are added to the vector;
* from the empty vector the two versions therefore agree exactly when every snapshot but the
  last is empty (`handleRun_noReset_reset`).
-/

namespace CertManagerMetrics

/-- The snapshots returned by the successful list calls of a run, in order. -/
def snapshots (lists : List (Except String (List CertificateRequest))) :
    List (List CertificateRequest) :=
  lists.filterMap Except.toOption

@[simp] theorem snapshots_nil : snapshots [] = [] := rfl

@[simp] theorem snapshots_cons_ok (crs : List CertificateRequest)
    (lists : List (Except String (List CertificateRequest))) :
    snapshots (.ok crs :: lists) = crs :: snapshots lists := rfl

@[simp] theorem snapshots_cons_error (err : String)
    (lists : List (Except String (List CertificateRequest))) :
    snapshots (.error err :: lists) = snapshots lists := rfl

theorem histogram_eq_iff {crs crs' : List CertificateRequest} :
    histogram crs = histogram crs' ↔ ∀ t, count crs t = count crs' t := by
  constructor
  · intro h t
    have := congrFun (congrArg MetricVec.children h) t
    simp only [histogram] at this
    split_ifs at this <;> simp_all
  · intro h
    ext1; funext t; simp [histogram, h t]

theorem histogram_nil : histogram [] = .empty := by
  ext1; funext t; simp [histogram]

/-- Only the empty snapshot has no record of any tuple. -/
theorem count_eq_zero_iff {crs : List CertificateRequest} : (∀ t, count crs t = 0) ↔ crs = [] := by
  refine ⟨fun h => ?_, fun h _ => h ▸ rfl⟩
  cases crs with
  | nil => rfl
  | cons cr crs => simpa using h cr.tuple

/-- The order of the records of a snapshot does not matter. -/
theorem histogram_perm {crs crs' : List CertificateRequest} (h : crs.Perm crs') :
    histogram crs = histogram crs' :=
  histogram_eq_iff.2 fun _ => h.countP_eq _

namespace WithReset

/-- Successive calls of `HandleCertificateRequestEvent`, the list call of the `i`-th returning
`lists[i]`. -/
def handleRun (p : Process) (lists : List (Except String (List CertificateRequest))) :
    Except LabelError Process :=
  lists.foldlM handleCertificateRequestEvent p

theorem handleCertificateRequestEvent_error (p : Process) (err : String) :
    ∃ p', handleCertificateRequestEvent p (.error err) = .ok p' ∧
      p'.currentCertificateRequestCount = p.currentCertificateRequestCount :=
  ⟨_, rfl, rfl⟩

/-- **With `Reset`, a run leaves the histogram of the last snapshot returned**, or the vector
it started from when no list call succeeded. -/
theorem handleRun_currentCertificateRequestCount (p : Process)
    (lists : List (Except String (List CertificateRequest))) :
    ∃ p', handleRun p lists = .ok p' ∧ p'.currentCertificateRequestCount =
      ((snapshots lists).getLast?.map histogram).getD p.currentCertificateRequestCount := by
  induction lists generalizing p with
  | nil => exact ⟨p, rfl, rfl⟩
  | cons list lists ih =>
    cases list with
    | error err =>
      obtain ⟨p₁, h₁, hv₁⟩ := handleCertificateRequestEvent_error p err
      obtain ⟨p', h', hv'⟩ := ih p₁
      refine ⟨p', by simpa [handleRun, h₁] using h', by simpa [hv₁] using hv'⟩
    | ok crs =>
      obtain ⟨p', h', hv'⟩ := ih { p with currentCertificateRequestCount := histogram crs }
      refine ⟨p', ?_, ?_⟩
      · simpa [handleRun, handleCertificateRequestEvent, updateCurrentCertificateRequestCount_eq]
          using h'
      · rw [hv', snapshots_cons_ok, List.getLast?_cons]
        cases (snapshots lists).getLast? <;> rfl

end WithReset

namespace NoReset

/-- Successive calls of `HandleCertificateRequestEvent` of the version without `Reset`. -/
def handleRun (p : Process) (lists : List (Except String (List CertificateRequest))) :
    Except LabelError Process :=
  lists.foldlM handleCertificateRequestEvent p

/-- **Without `Reset`, a run adds the histograms of all the snapshots returned.** -/
theorem handleRun_currentCertificateRequestCount (p : Process)
    (lists : List (Except String (List CertificateRequest))) :
    ∃ p', handleRun p lists = .ok p' ∧ p'.currentCertificateRequestCount =
      addCounts p.currentCertificateRequestCount (snapshots lists).flatten := by
  induction lists generalizing p with
  | nil => exact ⟨p, rfl, (addCounts_nil _).symm⟩
  | cons list lists ih =>
    cases list with
    | error err =>
      obtain ⟨p', h', hv'⟩ := ih { p with stdLog := p.stdLog ++ ["Error fetching CertificateRequests: " ++ err] }
      exact ⟨p', by simpa [handleRun, handleCertificateRequestEvent] using h', hv'⟩
    | ok crs =>
      obtain ⟨p', h', hv'⟩ := ih
        { p with currentCertificateRequestCount := addCounts p.currentCertificateRequestCount crs }
      refine ⟨p', ?_, ?_⟩
      · simpa [handleRun, handleCertificateRequestEvent, updateCurrentCertificateRequestCount_eq]
          using h'
      · rw [hv', addCounts_append, snapshots_cons_ok, List.flatten_cons]

end NoReset

/-! ### The reset version over sequences of events -/

/-- **After successive `HandleCertificateRequestEvent` calls, the vector is the histogram of
the last snapshot returned**, and the vector it started from if no list call succeeded.  So
a failed list leaves the vector as it was, the order of the records does not matter, the same
snapshot twice is the same snapshot once, and the empty snapshot leaves no child. -/
theorem handleRun_histogram_of_last_snapshot (p : Process)
    (lists : List (Except String (List CertificateRequest))) :
    (∃ p', WithReset.handleRun p lists = .ok p' ∧ p'.currentCertificateRequestCount =
        ((snapshots lists).getLast?.map histogram).getD p.currentCertificateRequestCount) ∧
    (∀ err, ∃ p', WithReset.handleCertificateRequestEvent p (.error err) = .ok p' ∧
        p'.currentCertificateRequestCount = p.currentCertificateRequestCount) ∧
    (∀ crs crs' : List CertificateRequest, crs.Perm crs' → histogram crs = histogram crs') ∧
    (∀ crs, WithReset.handleRun p [.ok crs, .ok crs] = WithReset.handleRun p [.ok crs]) ∧
    (∀ t, (histogram []).children t = none) :=
  ⟨WithReset.handleRun_currentCertificateRequestCount p lists,
    WithReset.handleCertificateRequestEvent_error p, fun _ _ => histogram_perm,
    fun crs => by
      simp [WithReset.handleRun, WithReset.handleCertificateRequestEvent,
        WithReset.updateCurrentCertificateRequestCount_eq, bind, Except.bind],
    fun t => by simp [histogram_nil]⟩

/-! ### The two versions -/

/-- From the empty vector, two events whose list calls both return the one record `r`: the
version without `Reset` holds 2 at the tuple of `r`, which its docstring and the vector's help
text call the current number of requests, while the snapshot holds one record of it and the
version with `Reset` holds 1. -/
theorem handleRun_noReset_counts_twice :
    let r : CertificateRequest := ⟨"a", "default", ⟨⟨"ca", "Issuer", "cert-manager.io"⟩⟩⟩
    (NoReset.handleRun Process.init [.ok [r], .ok [r]]).map
        (·.currentCertificateRequestCount.value r.tuple) = .ok 2 ∧
      (WithReset.handleRun Process.init [.ok [r], .ok [r]]).map
        (·.currentCertificateRequestCount.value r.tuple) = .ok 1 ∧
      count [r] r.tuple = 1 :=
  ⟨rfl, rfl, rfl⟩

/-- Two snapshots counted together give the histogram of the second alone exactly when the
first is empty. -/
theorem histogram_append_eq_iff (crs crs' : List CertificateRequest) :
    histogram (crs ++ crs') = histogram crs' ↔ crs = [] := by
  rw [histogram_eq_iff, ← count_eq_zero_iff]
  simp

/-- **From the empty vector, the version without `Reset` holds the histogram of all the
snapshots together and the version with `Reset` that of the last one**, so the two agree
exactly when every snapshot but the last is empty. -/
theorem handleRun_noReset_reset (p : Process) (hp : p.currentCertificateRequestCount = .empty)
    (lists : List (Except String (List CertificateRequest))) :
    ∃ pn pr, NoReset.handleRun p lists = .ok pn ∧ WithReset.handleRun p lists = .ok pr ∧
      pn.currentCertificateRequestCount = histogram (snapshots lists).flatten ∧
      pr.currentCertificateRequestCount = histogram ((snapshots lists).getLast?.getD []) ∧
      (pn.currentCertificateRequestCount = pr.currentCertificateRequestCount ↔
        ∀ crs ∈ (snapshots lists).dropLast, crs = []) := by
  obtain ⟨pn, hn, hvn⟩ := NoReset.handleRun_currentCertificateRequestCount p lists
  obtain ⟨pr, hr, hvr⟩ := WithReset.handleRun_currentCertificateRequestCount p lists
  have hvr' : pr.currentCertificateRequestCount = histogram ((snapshots lists).getLast?.getD []) := by
    rw [hvr, hp]
    cases (snapshots lists).getLast? <;> simp [histogram_nil]
  rw [hp, addCounts_empty] at hvn
  refine ⟨pn, pr, hn, hr, hvn, hvr', ?_⟩
  rw [hvn, hvr']
  obtain h | ⟨L, crs, h⟩ := List.eq_nil_or_concat (snapshots lists)
  · simp [h]
  · simp only [h, List.concat_eq_append, List.flatten_concat, List.getLast?_concat,
      Option.getD_some, List.dropLast_concat, histogram_append_eq_iff, List.flatten_eq_nil_iff]

/-- The version without `Reset` and the version with it, from the initial process, on two
snapshots of one record each. -/
theorem handleRun_noReset_reset_init :
    Process.init.currentCertificateRequestCount = .empty ∧
      ∃ pn pr, NoReset.handleRun Process.init [.ok [⟨"a", "default", ⟨⟨"ca", "Issuer", "cert-manager.io"⟩⟩⟩], .error "timeout"] = .ok pn ∧
        WithReset.handleRun Process.init [.ok [⟨"a", "default", ⟨⟨"ca", "Issuer", "cert-manager.io"⟩⟩⟩], .error "timeout"] = .ok pr ∧
        pn.currentCertificateRequestCount = histogram (snapshots [.ok [⟨"a", "default", ⟨⟨"ca", "Issuer", "cert-manager.io"⟩⟩⟩], .error "timeout"]).flatten ∧
        pr.currentCertificateRequestCount = histogram ((snapshots [.ok [⟨"a", "default", ⟨⟨"ca", "Issuer", "cert-manager.io"⟩⟩⟩], .error "timeout"]).getLast?.getD []) ∧
        (pn.currentCertificateRequestCount = pr.currentCertificateRequestCount ↔
          ∀ crs ∈ (snapshots [.ok [⟨"a", "default", ⟨⟨"ca", "Issuer", "cert-manager.io"⟩⟩⟩], .error "timeout"]).dropLast, crs = []) :=
  ⟨rfl, handleRun_noReset_reset Process.init rfl _⟩

end CertManagerMetrics
