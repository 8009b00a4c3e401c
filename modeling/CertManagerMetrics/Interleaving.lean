import CertManagerMetrics.Recompute
import CertManagerMetrics.Run
import Mathlib.Data.List.Infix

/-!
# Concurrent recomputations and scrapes

`HandleCertificateRequestEvent` (version with `Reset`) cut into its atomic steps: one list
call, which on failure writes its error through `m.log`, one `Reset` of the package-level
vector, then one `With(labels).Inc()` per record.  Any number of calls, numbered by `ℕ`,
interleave their steps with scrapes, each an atomic read of the vector.  Nothing in the
package orders these steps.  The state records the writes to the vector in the order they ran
(`Write`).

* `Interleaving.exec_inv` : along every interleaving, the writes of each call are its `Reset`
  followed by its increments in the order of its snapshot; the vector is the label-tuple
  histogram of the records incremented since the most recent `Reset` of any call
  (`sinceReset`), those of each call being a suffix of the records it has incremented; and
  every scrape has read the vector as it was after some prefix of the writes, each call
  contributing a contiguous run of records of its snapshot;
* `Interleaving.exec_solo` : a call whose steps run with no other step in between has the
  effect on the vector and on the log of the sequential `HandleCertificateRequestEvent`.

So a scrape may read a strict prefix of a snapshot, and two calls whose steps overlap may
add their counts: the vector is a histogram of one snapshot only between calls that do not
overlap.
-/

namespace CertManagerMetrics

namespace Interleaving

/-- Where a call of `HandleCertificateRequestEvent` is. -/
inductive Pc
  /-- Not started. -/
  | idle
  /-- The list call returned the snapshot `crs`. -/
  | listed (crs : List CertificateRequest)
  /-- `Reset` done, and the first `n` records of `crs` incremented. -/
  | filling (crs : List CertificateRequest) (n : Nat)
  /-- The list call failed; the call logged the error and returned. -/
  | failed
  deriving DecidableEq, Repr

/-- A write to the vector. -/
inductive Write
  /-- The `Reset` of call `i`. -/
  | reset (i : Nat)
  /-- The increment by call `i` of the tuple of `cr`. -/
  | inc (i : Nat) (cr : CertificateRequest)
  deriving DecidableEq, Repr

/-- The call that made a write. -/
def Write.call : Write → Nat
  | .reset i | .inc i _ => i

/-- The increments after the most recent `Reset`, each with its call. -/
def sinceReset (ws : List Write) : List (Nat × CertificateRequest) :=
  ws.foldl (fun L w => match w with
    | .reset _ => []
    | .inc i cr => L ++ [(i, cr)]) []

@[simp] theorem sinceReset_nil : sinceReset [] = [] := rfl

@[simp] theorem sinceReset_append_reset (ws : List Write) (i : Nat) :
    sinceReset (ws ++ [.reset i]) = [] := by
  simp [sinceReset]

@[simp] theorem sinceReset_append_inc (ws : List Write) (i : Nat) (cr : CertificateRequest) :
    sinceReset (ws ++ [.inc i cr]) = sinceReset ws ++ [(i, cr)] := by
  simp [sinceReset]

namespace Pc

/-- The snapshot of a call, once its list call has returned one. -/
def snapshot : Pc → List CertificateRequest
  | listed crs | filling crs _ => crs
  | idle | failed => []

/-- The records a call has incremented. -/
def incremented : Pc → List CertificateRequest
  | filling crs n => crs.take n
  | idle | listed _ | failed => []

/-- The writes of call `i`: its `Reset`, then an increment per record it has incremented. -/
def writes (i : Nat) : Pc → List Write
  | filling crs n => .reset i :: (crs.take n).map (.inc i)
  | idle | listed _ | failed => []

/-- The call has steps left. -/
def inFlight : Pc → Bool
  | listed _ => true
  | filling crs n => n < crs.length
  | idle | failed => false

theorem snapshot_startsWith_incremented (pc : Pc) : pc.incremented <+: pc.snapshot := by
  cases pc <;> simp [incremented, snapshot, List.take_prefix]

end Pc

/-- An atomic step. -/
inductive Action
  /-- The list call of call `i`, returning `result`. -/
  | list (i : Nat) (result : Except String (List CertificateRequest))
  /-- The `Reset` of call `i`. -/
  | reset (i : Nat)
  /-- The `With(labels).Inc()` of the next record of call `i`. -/
  | inc (i : Nat)
  /-- A scrape reading the vector. -/
  | scrape

/-- The shared vector and log, the calls, and what has been observed so far: the reads of
the scrapes, the snapshots returned and the writes to the vector. -/
structure State where
  /-- The package-level `currentCertificateRequestCount`. -/
  vec : MetricVec certificateLabels Nat
  /-- The entries written through `m.log`. -/
  log : List LogEntry
  /-- Where each call is. -/
  calls : Nat → Pc
  /-- The vectors read by the scrapes, in order. -/
  reads : List (MetricVec certificateLabels Nat)
  /-- The snapshots returned by the list calls, in order. -/
  returned : List (List CertificateRequest)
  /-- The writes to the vector, in order. -/
  writes : List Write

/-- No call has started, nothing is logged and the vector has no child. -/
def init : State := ⟨.empty, [], fun _ => .idle, [], [], []⟩

/-- `s` with call `i` at `pc`. -/
def State.setCall (s : State) (i : Nat) (pc : Pc) : State :=
  { s with calls := Function.update s.calls i pc }

/-- One atomic step, `none` where it is not enabled. -/
def step (s : State) : Action → Option State
  | .list i result =>
    match s.calls i, result with
    | .idle, .error err =>
      some { s.setCall i .failed with
        log := s.log ++ [.error (.list err) "Error fetching CertificateRequests" []] }
    | .idle, .ok crs => some { s.setCall i (.listed crs) with returned := s.returned ++ [crs] }
    | _, _ => none
  | .reset i =>
    match s.calls i with
    | .listed crs =>
      some { s.setCall i (.filling crs 0) with
        vec := s.vec.reset, writes := s.writes ++ [.reset i] }
    | _ => none
  | .inc i =>
    match s.calls i with
    | .filling crs n =>
      match crs[n]? with
      | some cr =>
        match s.vec.addWith cr.labels 1 with
        | .ok v =>
          some { s.setCall i (.filling crs (n + 1)) with
            vec := v, writes := s.writes ++ [.inc i cr] }
        | .error _ => none
      | none => none
    | _ => none
  | .scrape => some { s with reads := s.reads ++ [s.vec] }

/-- The steps `acts`, in order. -/
def exec (s : State) (acts : List Action) : Option State := runSteps step s acts

@[simp] theorem setCall_calls (s : State) (i j : Nat) (pc : Pc) :
    (s.setCall i pc).calls j = if j = i then pc else s.calls j := by
  simp [State.setCall, Function.update_apply]

@[simp] theorem setCall_vec (s : State) (i : Nat) (pc : Pc) : (s.setCall i pc).vec = s.vec := rfl

@[simp] theorem setCall_log (s : State) (i : Nat) (pc : Pc) : (s.setCall i pc).log = s.log := rfl

@[simp] theorem setCall_reads (s : State) (i : Nat) (pc : Pc) :
    (s.setCall i pc).reads = s.reads := rfl

@[simp] theorem setCall_returned (s : State) (i : Nat) (pc : Pc) :
    (s.setCall i pc).returned = s.returned := rfl

@[simp] theorem setCall_writes (s : State) (i : Nat) (pc : Pc) :
    (s.setCall i pc).writes = s.writes := rfl

/-- **Everything a step can do**: a list call of an idle call fails and logs its error, or
returns a snapshot; a `Reset` empties the vector; an increment adds one at the tuple of the
call's next record; each of the last two is recorded as a write; and a scrape records the
vector. -/
theorem step_cases {s s' : State} {a : Action} (h : step s a = some s') :
    (∃ i err, a = .list i (.error err) ∧ s.calls i = .idle ∧
      s' = { s.setCall i .failed with
        log := s.log ++ [.error (.list err) "Error fetching CertificateRequests" []] }) ∨
    (∃ i crs, a = .list i (.ok crs) ∧ s.calls i = .idle ∧
      s' = { s.setCall i (.listed crs) with returned := s.returned ++ [crs] }) ∨
    (∃ i crs, a = .reset i ∧ s.calls i = .listed crs ∧
      s' = { s.setCall i (.filling crs 0) with vec := .empty, writes := s.writes ++ [.reset i] }) ∨
    (∃ i crs n cr, a = .inc i ∧ s.calls i = .filling crs n ∧ crs[n]? = some cr ∧
      s' = { s.setCall i (.filling crs (n + 1)) with
        vec := s.vec.add cr.tuple 1, writes := s.writes ++ [.inc i cr] }) ∨
    (a = .scrape ∧ s' = { s with reads := s.reads ++ [s.vec] }) := by
  cases a with
  | list i result =>
    simp only [step] at h
    split at h <;> cases h
    · exact .inl ⟨i, _, rfl, ‹_›, rfl⟩
    · exact .inr (.inl ⟨i, _, rfl, ‹_›, rfl⟩)
  | reset i =>
    simp only [step] at h
    split at h <;> cases h
    exact .inr (.inr (.inl ⟨i, _, rfl, ‹_›, by simp⟩))
  | inc i =>
    simp only [step] at h
    split at h
    · rename_i crs n hc
      split at h
      · rename_i cr hcr
        rw [MetricVec.addWith_of_getMetricWith _ _ cr.getMetricWith_labels] at h
        cases h
        exact .inr (.inr (.inr (.inl ⟨i, crs, n, cr, rfl, hc, hcr, rfl⟩)))
      · cases h
    · cases h
  | scrape => cases h; exact .inr (.inr (.inr (.inr ⟨rfl, rfl⟩)))

/-- The call an action is a step of. -/
def Action.call : Action → Option Nat
  | .list i _ | .reset i | .inc i => some i
  | .scrape => none

/-- A step of another call leaves call `i` where it is. -/
theorem step_calls_of_ne {s s' : State} {a : Action} (h : step s a = some s') {i : Nat}
    (hi : a.call ≠ some i) : s'.calls i = s.calls i := by
  rcases step_cases h with ⟨j, _, rfl, -, rfl⟩ | ⟨j, _, rfl, -, rfl⟩ | ⟨j, _, rfl, -, rfl⟩ |
    ⟨j, _, _, _, rfl, -, -, rfl⟩ | ⟨rfl, rfl⟩ <;>
  simp_all [Action.call, Ne.symm]

theorem exec_calls_of_not_mem {s s' : State} {acts : List Action} (h : exec s acts = some s')
    {i : Nat} (hi : ∀ a ∈ acts, a.call ≠ some i) : s'.calls i = s.calls i :=
  runSteps_invariant (I := fun t => t.calls i = s.calls i)
    (fun a ha _ _ ht h₁ => (step_calls_of_ne h₁ (hi a ha)).trans ht) rfl h

/-- The records of call `i` among records tagged with their calls. -/
def segment (L : List (Nat × CertificateRequest)) (i : Nat) : List CertificateRequest :=
  (L.filter (·.1 = i)).map Prod.snd

/-- `v` is the histogram of records each call contributes as a contiguous run of its
snapshot. -/
def Segments (calls : Nat → Pc) (v : MetricVec certificateLabels Nat) : Prop :=
  ∃ L, v = histogram (L.map Prod.snd) ∧ ∀ i, segment L i <:+: (calls i).snapshot

/-- The invariant of the interleaving. -/
structure Inv (s : State) : Prop where
  /-- The writes of each call are its `Reset`, then its increments in snapshot order. -/
  own : ∀ i, s.writes.filter (·.call = i) = (s.calls i).writes i
  /-- The vector holds the records incremented since the most recent `Reset`. -/
  vec : s.vec = histogram ((sinceReset s.writes).map Prod.snd)
  /-- Those of each call are a suffix of the records it has incremented. -/
  recent : ∀ i, segment (sinceReset s.writes) i <:+ (s.calls i).incremented
  /-- Every scrape read the vector as it was after a prefix of the writes, a sum of
  contiguous runs of the snapshots. -/
  reads : ∀ v ∈ s.reads, (∃ ws, ws <+: s.writes ∧ v = histogram ((sinceReset ws).map Prod.snd)) ∧
    Segments s.calls v
  /-- The snapshot of a call is one the list calls returned. -/
  returned : ∀ i, (s.calls i).snapshot = [] ∨ (s.calls i).snapshot ∈ s.returned

theorem histogram_append_single (crs : List CertificateRequest) (cr : CertificateRequest) :
    histogram (crs ++ [cr]) = (histogram crs).add cr.tuple 1 := by
  rw [← addCounts_empty, ← addCounts_append, addCounts_empty, addCounts_cons, addCounts_nil]

theorem segment_append_single (L : List (Nat × CertificateRequest)) (i j : Nat)
    (cr : CertificateRequest) :
    segment (L ++ [(i, cr)]) j = if j = i then segment L j ++ [cr] else segment L j := by
  by_cases h : j = i
  · subst h; simp [segment]
  · simp [segment, h, Ne.symm h]

theorem filter_call_append_single (ws : List Write) (w : Write) (j : Nat) :
    (ws ++ [w]).filter (·.call = j) = if w.call = j then ws.filter (·.call = j) ++ [w]
      else ws.filter (·.call = j) := by
  by_cases h : w.call = j <;> simp [h]

/-- A vector of the records incremented since the most recent `Reset` is a sum of contiguous
runs of the snapshots. -/
theorem segments_of_recent {calls : Nat → Pc} {L : List (Nat × CertificateRequest)}
    (h : ∀ i, segment L i <:+ (calls i).incremented) : Segments calls (histogram (L.map Prod.snd)) :=
  ⟨L, rfl, fun i => (h i).isInfix.trans (calls i).snapshot_startsWith_incremented.isInfix⟩

theorem Segments.mono {calls calls' : Nat → Pc} {v : MetricVec certificateLabels Nat}
    (h : Segments calls v) (hc : ∀ j, (calls j).snapshot <:+: (calls' j).snapshot) :
    Segments calls' v :=
  let ⟨L, hv, hL⟩ := h
  ⟨L, hv, fun i => (hL i).trans (hc i)⟩

theorem inv_init : Inv init where
  own _ := rfl
  vec := by simp [init, histogram_nil]
  recent _ := by simp [init, segment]
  reads _ h := by cases h
  returned _ := .inl rfl

/-- A list call, which moves call `i` to `pc'` with the same writes and records incremented
and a snapshot containing the old one, keeps the invariant, the list of returned snapshots
only growing. -/
theorem Inv.list {s : State} (hs : Inv s) {i : Nat} (pc' : Pc)
    (hw : pc'.writes i = (s.calls i).writes i) (hinc : pc'.incremented = (s.calls i).incremented)
    (hsnap : (s.calls i).snapshot <:+: pc'.snapshot)
    (returned' : List (List CertificateRequest)) (hsub : ∀ x ∈ s.returned, x ∈ returned')
    (hret : pc'.snapshot = [] ∨ pc'.snapshot ∈ returned') (log' : List LogEntry) :
    Inv { s.setCall i pc' with returned := returned', log := log' } where
  own j := by
    by_cases h : j = i
    · subst h; simpa [hw] using hs.own j
    · simpa [h] using hs.own j
  vec := hs.vec
  recent j := by
    by_cases h : j = i
    · subst h; simpa [hinc] using hs.recent j
    · simpa [h] using hs.recent j
  reads v hv := ⟨(hs.reads v hv).1, (hs.reads v hv).2.mono fun j => by
    by_cases h : j = i
    · simpa [h] using hsnap
    · simp [h]⟩
  returned j := by
    by_cases h : j = i
    · simpa [h] using hret
    · rcases hs.returned j with h' | h' <;> simp [h, h', hsub]

/-- A write by call `i`, which moves it from `pc` to `pc'` at the same snapshot with the write
appended to its own, keeps the invariant when the vector is still that of the records
incremented since the most recent `Reset`. -/
theorem Inv.write {s : State} (hs : Inv s) {i : Nat} {pc : Pc} (pc' : Pc) (w : Write)
    (hi : s.calls i = pc) (hwi : w.call = i) (hw : pc'.writes i = pc.writes i ++ [w])
    (hsnap : pc'.snapshot = pc.snapshot)
    (hrecent : ∀ j, segment (sinceReset (s.writes ++ [w])) j <:+
      (Function.update s.calls i pc' j).incremented) :
    Inv { s.setCall i pc' with
      vec := histogram ((sinceReset (s.writes ++ [w])).map Prod.snd), writes := s.writes ++ [w] } where
  own j := by
    rw [filter_call_append_single, hs.own j]
    by_cases h : j = i
    · subst h; simp [hwi, hw, hi]
    · simp [h, Ne.symm h, hwi]
  vec := rfl
  recent j := by simpa [Function.update_apply] using hrecent j
  reads v hv := by
    obtain ⟨⟨ws, hws, hv'⟩, hseg⟩ := hs.reads v hv
    refine ⟨⟨ws, hws.trans (List.prefix_append _ _), hv'⟩, hseg.mono fun j => ?_⟩
    by_cases h : j = i
    · subst h; simp [hsnap, hi]
    · simp [h]
  returned j := by
    by_cases h : j = i
    · subst h; simpa [hsnap, hi] using hs.returned j
    · simpa [h] using hs.returned j

/-- **Every step keeps the invariant.** -/
theorem Inv.step {s s' : State} {a : Action} (hs : Inv s) (h : step s a = some s') : Inv s' := by
  rcases step_cases h with ⟨i, _, -, hi, rfl⟩ | ⟨i, crs, -, hi, rfl⟩ | ⟨i, crs, -, hi, rfl⟩ |
    ⟨i, crs, n, cr, -, hi, hcr, rfl⟩ | ⟨-, rfl⟩
  · exact hs.list .failed (by simp [hi, Pc.writes]) (by simp [hi, Pc.incremented])
      (by simp [hi, Pc.snapshot]) _ (fun _ => id) (.inl rfl) _
  · exact hs.list (.listed crs) (by simp [hi, Pc.writes]) (by simp [hi, Pc.incremented])
      (by simp [hi, Pc.snapshot]) _ (fun _ hx => List.mem_append_left _ hx)
      (.inr (by simp [Pc.snapshot])) _
  · have := hs.write (.filling crs 0) (.reset i) hi rfl (by simp [Pc.writes]) rfl fun j => by
      simp [segment]
    simpa [histogram_nil] using this
  · obtain ⟨t, ht⟩ := hs.recent i
    have := hs.write (.filling crs (n + 1)) (.inc i cr) hi rfl
      (by simp [Pc.writes, List.take_succ, hcr]) rfl fun j => by
        rw [sinceReset_append_inc, segment_append_single]
        by_cases h : j = i
        · subst h
          simp only [hi, Pc.incremented] at ht
          exact ⟨t, by simp [Pc.incremented, List.take_succ, hcr, ← ht]⟩
        · simpa [h] using hs.recent j
    rwa [sinceReset_append_inc, List.map_append, List.map_singleton, histogram_append_single,
      ← hs.vec] at this
  · refine ⟨hs.own, hs.vec, hs.recent, fun v hv => ?_, hs.returned⟩
    rcases List.mem_append.1 hv with hv | hv
    · exact hs.reads v hv
    · obtain rfl := List.mem_singleton.1 hv
      exact ⟨⟨s.writes, List.prefix_refl _, hs.vec⟩, hs.vec ▸ segments_of_recent hs.recent⟩

/-- **Along every interleaving the invariant holds.** -/
theorem exec_inv {s s' : State} (hs : Inv s) {acts : List Action}
    (h : exec s acts = some s') : Inv s' :=
  runSteps_invariant (fun _ _ _ _ ht h₁ => ht.step h₁) hs h

/-! ### Calls that do not overlap -/

theorem step_list_error {s : State} {i : Nat} (hi : s.calls i = .idle) (err : String) :
    step s (.list i (.error err)) = some { s.setCall i .failed with
      log := s.log ++ [.error (.list err) "Error fetching CertificateRequests" []] } := by
  simp only [step, hi]

theorem step_list_ok {s : State} {i : Nat} (hi : s.calls i = .idle)
    (crs : List CertificateRequest) :
    step s (.list i (.ok crs)) =
      some { s.setCall i (.listed crs) with returned := s.returned ++ [crs] } := by
  simp only [step, hi]

theorem step_reset {s : State} {i : Nat} (crs : List CertificateRequest)
    (hi : s.calls i = .listed crs) :
    step s (.reset i) = some { s.setCall i (.filling crs 0) with
      vec := .empty, writes := s.writes ++ [.reset i] } := by
  simp only [step, hi, MetricVec.reset_eq]

theorem step_inc {s : State} {i : Nat} {crs : List CertificateRequest} {n : Nat}
    {cr : CertificateRequest} (hi : s.calls i = .filling crs n) (hcr : crs[n]? = some cr) :
    step s (.inc i) = some { s.setCall i (.filling crs (n + 1)) with
      vec := s.vec.add cr.tuple 1, writes := s.writes ++ [.inc i cr] } := by
  simp only [step, hi, hcr, MetricVec.addWith_of_getMetricWith _ _ cr.getMetricWith_labels]

/-- `k` increments of a call in a row add the next `k` records of its snapshot, and leave the
log as it was. -/
theorem exec_incs (i : Nat) (crs : List CertificateRequest) (k : Nat) :
    ∀ (s : State) (n : Nat), s.calls i = .filling crs n → n + k ≤ crs.length →
      ∃ s', exec s (List.replicate k (.inc i)) = some s' ∧ s'.calls i = .filling crs (n + k) ∧
        s'.vec = addCounts s.vec ((crs.drop n).take k) ∧ s'.log = s.log := by
  induction k with
  | zero => exact fun s n hi _ => ⟨s, rfl, hi, by simp [addCounts_nil], rfl⟩
  | succ k ih =>
    intro s n hi hk
    have hn : n < crs.length := by omega
    obtain ⟨s', h', hc', hv', hl'⟩ := ih { s.setCall i (.filling crs (n + 1)) with
      vec := s.vec.add crs[n].tuple 1, writes := s.writes ++ [.inc i crs[n]] } (n + 1) (by simp)
      (by omega)
    refine ⟨s', ?_, by rw [hc', Nat.add_right_comm, Nat.add_assoc], ?_, hl'⟩
    · rw [List.replicate_succ]
      exact (runSteps_cons (step_inc hi (List.getElem?_eq_getElem hn)) _).trans h'
    · rw [hv', List.drop_eq_getElem_cons hn, List.take_succ_cons, addCounts_cons]

/-- The steps of call `i` run with no other step between them, its list call returning
`result`. -/
def solo (i : Nat) : Except String (List CertificateRequest) → List Action
  | .error e => [.list i (.error e)]
  | .ok crs => .list i (.ok crs) :: .reset i :: List.replicate crs.length (.inc i)

theorem call_of_mem_solo {i : Nat} {result : Except String (List CertificateRequest)} {a : Action}
    (ha : a ∈ solo i result) : a.call = some i := by
  cases result <;> simp only [solo, List.mem_cons, List.mem_singleton, List.mem_replicate,
    List.not_mem_nil, or_false] at ha <;> rcases ha with rfl | rfl | ⟨-, rfl⟩ <;> rfl

/-- **A call that runs alone has the effect on the vector and on the log of the sequential
`HandleCertificateRequestEvent`.** -/
theorem exec_solo {s : State} {i : Nat} (hi : s.calls i = .idle)
    (result : Except String (List CertificateRequest)) (p : Process)
    (hp : p.currentCertificateRequestCount = s.vec) :
    ∃ s' p', exec s (solo i result) = some s' ∧
      WithReset.handleCertificateRequestEvent p result = .ok p' ∧
      p'.currentCertificateRequestCount = s'.vec ∧
      (∃ L, s'.log = s.log ++ L ∧ p'.metrics.log = p.metrics.log ++ L) ∧ s'.calls i ≠ .idle := by
  cases result with
  | error e =>
    exact ⟨_, _, (runSteps_cons (step_list_error hi e) []).trans rfl, rfl, hp, ⟨_, rfl, rfl⟩,
      by simp⟩
  | ok crs =>
    obtain ⟨s', h', hc', hv', hl'⟩ := exec_incs i crs crs.length
      { (({ s.setCall i (.listed crs) with returned := s.returned ++ [crs] } : State)).setCall
        i (.filling crs 0) with vec := .empty, writes := s.writes ++ [.reset i] } 0 (by simp)
        (by simp)
    refine ⟨s', _, ?_, WithReset.updateCurrentCertificateRequestCount_eq p crs, ?_,
      ⟨[], by simpa using hl', by simp⟩, by simp [hc']⟩
    · rw [solo, exec, runSteps_cons (step_list_ok hi crs), runSteps_cons (step_reset crs (by simp))]
      exact h'
    · rw [hv']; simp [addCounts_empty]

/-- The calls `i₀, i₀ + 1, …` one after the other, the list call of each returning the next
of `lists`. -/
def sequential (i₀ : Nat) : List (Except String (List CertificateRequest)) → List Action
  | [] => []
  | result :: lists => solo i₀ result ++ sequential (i₀ + 1) lists

/-- Calls that do not overlap run as the sequential `HandleCertificateRequestEvent` does, on
the vector and on the log. -/
theorem exec_sequential_handleRun (lists : List (Except String (List CertificateRequest))) :
    ∀ (i₀ : Nat) (s : State) (p : Process), (∀ j, i₀ ≤ j → s.calls j = .idle) →
      p.currentCertificateRequestCount = s.vec →
      ∃ s' p', exec s (sequential i₀ lists) = some s' ∧ WithReset.handleRun p lists = .ok p' ∧
        p'.currentCertificateRequestCount = s'.vec ∧
        ∃ L, s'.log = s.log ++ L ∧ p'.metrics.log = p.metrics.log ++ L := by
  induction lists with
  | nil => exact fun _ s p _ hp => ⟨s, p, rfl, rfl, hp, [], by simp, by simp⟩
  | cons result lists ih =>
    intro i₀ s p hs hp
    obtain ⟨s₁, p₁, h₁, hp₁, hv₁, ⟨L₁, hl₁, hm₁⟩, -⟩ := exec_solo (hs i₀ le_rfl) result p hp
    have hs₁ : ∀ j, i₀ + 1 ≤ j → s₁.calls j = .idle := fun j hj => by
      rw [exec_calls_of_not_mem h₁ fun a ha => by simp [call_of_mem_solo ha]; omega,
        hs j (by omega)]
    obtain ⟨s', p', h', hp', hv', L, hl', hm'⟩ := ih (i₀ + 1) s₁ p₁ hs₁ hv₁
    refine ⟨s', p', by rw [sequential, exec, runSteps_append_of_eq h₁]; exact h', ?_, hv',
      L₁ ++ L, by rw [hl', hl₁, List.append_assoc], by rw [hm', hm₁, List.append_assoc]⟩
    rw [WithReset.handleRun, List.foldlM_cons, hp₁]
    exact hp'

/-- **Calls that do not overlap refine the sequential run of `HandleCertificateRequestEvent`**:
they leave the vector that run leaves, which is the histogram of the last snapshot a list call
returned (or the vector they started from if none did), and they log what it logs. -/
theorem exec_sequential (lists : List (Except String (List CertificateRequest))) :
    ∀ (i₀ : Nat) (s : State) (p : Process), (∀ j, i₀ ≤ j → s.calls j = .idle) →
      p.currentCertificateRequestCount = s.vec →
      ∃ s' p', exec s (sequential i₀ lists) = some s' ∧ WithReset.handleRun p lists = .ok p' ∧
        p'.currentCertificateRequestCount = s'.vec ∧
        s'.vec = ((snapshots lists).getLast?.map histogram).getD s.vec ∧
        ∃ L, s'.log = s.log ++ L ∧ p'.metrics.log = p.metrics.log ++ L := by
  intro i₀ s p hs hp
  obtain ⟨s', p', h', hp', hv', hl'⟩ := exec_sequential_handleRun lists i₀ s p hs hp
  obtain ⟨p'', hp'', hv''⟩ := WithReset.handleRun_currentCertificateRequestCount p lists
  obtain rfl : p' = p'' := Except.ok.inj (hp'.symm.trans hp'')
  exact ⟨s', p', h', hp', hv', by rw [← hv', hv'', hp], hl'⟩

/-- Two calls one after the other from the initial state, the second list call failing. -/
theorem exec_sequential_init :
    let r : CertificateRequest := ⟨"a", "default", ⟨⟨"ca", "Issuer", "cert-manager.io"⟩⟩⟩
    (∀ j, 0 ≤ j → init.calls j = .idle) ∧
      Process.init.currentCertificateRequestCount = init.vec ∧
      ∃ s' p', exec init (sequential 0 [.ok [r], .error "timeout"]) = some s' ∧
        WithReset.handleRun Process.init [.ok [r], .error "timeout"] = .ok p' ∧
        p'.currentCertificateRequestCount = s'.vec ∧
        s'.vec = ((snapshots [.ok [r], .error "timeout"]).getLast?.map histogram).getD init.vec ∧
        ∃ L, s'.log = init.log ++ L ∧ p'.metrics.log = Process.init.metrics.log ++ L :=
  ⟨fun _ _ => rfl, rfl, exec_sequential _ 0 init Process.init (fun _ _ => rfl) rfl⟩

/-! ### What every interleaving guarantees -/

/-- **Along every interleaving, the vector is the histogram of the records incremented since
the most recent `Reset`, and every scrape reads a sum of contiguous runs of the snapshots,
one run per call.**  The writes of each call to the vector are its `Reset`, then its
increments in the order of its snapshot; those since the most recent `Reset` of any call are
a suffix of the records the call has incremented; every scrape read the vector as it was
after a prefix of the writes; and each call's snapshot is one that a list call returned. -/
theorem exec_reads_contiguous_runs {acts : List Action} {s : State}
    (h : exec init acts = some s) :
    (∀ v ∈ s.reads, (∃ ws, ws <+: s.writes ∧ v = histogram ((sinceReset ws).map Prod.snd)) ∧
      ∃ L : List (Nat × CertificateRequest),
        v = histogram (L.map Prod.snd) ∧ ∀ i, segment L i <:+: (s.calls i).snapshot) ∧
    s.vec = histogram ((sinceReset s.writes).map Prod.snd) ∧
    (∀ i, segment (sinceReset s.writes) i <:+ (s.calls i).incremented) ∧
    (∀ i, s.writes.filter (·.call = i) = (s.calls i).writes i) ∧
    (∀ i, (s.calls i).snapshot = [] ∨ (s.calls i).snapshot ∈ s.returned) :=
  let hs := exec_inv inv_init h
  ⟨hs.reads, hs.vec, hs.recent, hs.own, hs.returned⟩

/-- Two calls listing the same record, their steps interleaved, with a scrape in between. -/
theorem exec_reads_contiguous_runs_overlapping :
    let r : CertificateRequest := ⟨"a", "default", ⟨⟨"ca", "Issuer", "cert-manager.io"⟩⟩⟩
    ∃ s, exec init [.list 0 (.ok [r]), .list 1 (.ok [r]), .reset 0, .inc 0, .scrape, .reset 1,
        .inc 1] = some s ∧
      (∀ v ∈ s.reads, (∃ ws, ws <+: s.writes ∧ v = histogram ((sinceReset ws).map Prod.snd)) ∧
        ∃ L : List (Nat × CertificateRequest),
          v = histogram (L.map Prod.snd) ∧ ∀ i, segment L i <:+: (s.calls i).snapshot) ∧
      s.vec = histogram ((sinceReset s.writes).map Prod.snd) ∧
      (∀ i, segment (sinceReset s.writes) i <:+ (s.calls i).incremented) ∧
      (∀ i, s.writes.filter (·.call = i) = (s.calls i).writes i) ∧
      (∀ i, (s.calls i).snapshot = [] ∨ (s.calls i).snapshot ∈ s.returned) := by
  intro r
  obtain ⟨s, hs⟩ := Option.isSome_iff_exists.1 (rfl : (exec init [.list 0 (.ok [r]),
    .list 1 (.ok [r]), .reset 0, .inc 0, .scrape, .reset 1, .inc 1]).isSome)
  exact ⟨s, hs, exec_reads_contiguous_runs hs⟩

/-- What a scrape should read if a recomputation were atomic: the histogram of a snapshot
that a list call returned, or the empty vector, and the same of the vector once no call is in
flight. -/
def SnapshotsOnly (s : State) : Prop :=
  (∀ v ∈ s.reads, v = .empty ∨ ∃ crs ∈ s.returned, v = histogram crs) ∧
  ((∀ i, (s.calls i).inFlight = false) →
    s.vec = .empty ∨ ∃ crs ∈ s.returned, s.vec = histogram crs)

theorem exec_eval {s₀ s : State} {acts : List Action} {α : Type} {f : State → α} {x : α}
    (h : (exec s₀ acts).map f = some x) (hs : exec s₀ acts = some s) : f s = x := by
  rw [hs] at h; exact Option.some.inj h

/-- A scrape between two increments of one call reads a strict prefix of its snapshot, and two
calls listing the same record and overlapping count it twice. -/
theorem exec_partial_and_doubled :
    let r₁ : CertificateRequest := ⟨"a", "default", ⟨⟨"ca", "Issuer", "cert-manager.io"⟩⟩⟩
    let r₂ : CertificateRequest := ⟨"b", "default", ⟨⟨"ca", "Issuer", "cert-manager.io"⟩⟩⟩
    (∃ s, exec init [.list 0 (.ok [r₁, r₂]), .reset 0, .inc 0, .scrape, .inc 0] = some s ∧
      ¬ SnapshotsOnly s) ∧
    (∃ s, exec init [.list 0 (.ok [r₁]), .list 1 (.ok [r₁]), .reset 0, .reset 1, .inc 0, .inc 1] =
      some s ∧ ¬ SnapshotsOnly s) := by
  intro r₁ r₂
  constructor
  · have e₁ : (exec init [.list 0 (.ok [r₁, r₂]), .reset 0, .inc 0, .scrape, .inc 0]).map
        (fun s => s.reads.map fun v => (v.children r₁.tuple, v.children r₂.tuple)) =
          some [(some 1, none)] := rfl
    have e₂ : (exec init [.list 0 (.ok [r₁, r₂]), .reset 0, .inc 0, .scrape, .inc 0]).map
        (·.returned) = some [[r₁, r₂]] := rfl
    obtain ⟨s, hs⟩ := Option.isSome_iff_exists.1
      (rfl : (exec init [.list 0 (.ok [r₁, r₂]), .reset 0, .inc 0, .scrape, .inc 0]).isSome)
    refine ⟨s, hs, fun h => ?_⟩
    obtain ⟨v, hv, hv'⟩ := List.mem_map.1 ((exec_eval e₁ hs) ▸ List.mem_singleton_self _)
    rcases h.1 v hv with h0 | ⟨crs, hcrs, rfl⟩
    · simp [h0] at hv'
    · rw [exec_eval e₂ hs, List.mem_singleton] at hcrs
      subst hcrs
      exact absurd hv' (by decide)
  · have e : (exec init [.list 0 (.ok [r₁]), .list 1 (.ok [r₁]), .reset 0, .reset 1, .inc 0,
        .inc 1]).map (fun s => ((s.calls 0).inFlight, (s.calls 1).inFlight, s.returned,
          s.vec.children r₁.tuple)) = some (false, false, [[r₁], [r₁]], some 2) := rfl
    obtain ⟨s, hs⟩ := Option.isSome_iff_exists.1 (rfl : (exec init [.list 0 (.ok [r₁]),
      .list 1 (.ok [r₁]), .reset 0, .reset 1, .inc 0, .inc 1]).isSome)
    obtain ⟨h₀, h₁, hret, hvec⟩ := by simpa only [Prod.mk.injEq] using exec_eval e hs
    refine ⟨s, hs, fun h => ?_⟩
    have hq : ∀ i, (s.calls i).inFlight = false := by
      intro i
      by_cases hi : i = 0 ∨ i = 1
      · rcases hi with rfl | rfl <;> assumption
      · push_neg at hi
        rw [exec_calls_of_not_mem hs (by simp [Action.call, Ne.symm hi.1, Ne.symm hi.2])]
        rfl
    rcases h.2 hq with h0 | ⟨crs, hcrs, hh⟩
    · simp [h0] at hvec
    · rw [hret] at hcrs
      obtain rfl : crs = [r₁] := by simpa using hcrs
      rw [hh] at hvec
      exact absurd hvec (by decide)

end Interleaving

end CertManagerMetrics
