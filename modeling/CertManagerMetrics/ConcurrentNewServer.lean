import CertManagerMetrics.Run
import CertManagerMetrics.Server

/-!
# Concurrent calls of `NewServer`

`NewServer` may run in several goroutines on one `Metrics`.  The registry takes its lock for
`Register`, and twice for `Unregister`: its read lock to check that the collector is there,
then, once that is released, its write lock to delete it.  Each write to the logger is atomic,
but the body of the loop is not: between the check of a metric and the `Register` or the
delete that follows, another call may act on the same metric.  `ConcurrentNewServer.step` is
one of these atomic steps of one call, and `ConcurrentNewServer.exec` interleaves the steps of
any number of calls in any order.

* `ConcurrentNewServer.exec_log_accounts_for_registry` : along every interleaving of calls on
  the `Metrics` returned by `New`, each name of the registry holds its own collector or
  nothing; counting the entries the calls are about to write, a registered collector has a
  `Registered metric` entry, and the `Registered metric` entries of a collector are at most
  its `Metric already registered; skipping` entries plus one if it is registered; and a
  refused registration is always an `AlreadyRegisteredError` of a collector by itself, never a
  clash of dimensions;
* `ConcurrentNewServer.exec_solo_newServer` : a call whose steps run with no other step in
  between has the effect of the sequential `NewServer` (`Metrics.newServer`).

So concurrent calls can log `Failed to register metric`, which calls one after another never
do, and two calls that both found a collector both log that they skip it, though only one of
them removed it: the log bounds what the registry holds, and no longer gives it exactly.
-/

namespace CertManagerMetrics

namespace ConcurrentNewServer

open Metrics Registry

/-- The step of the loop body a call is at, for its current metric. -/
inductive Phase
  /-- About to call `Unregister`, whose check under the read lock finds whether the metric is
  registered. -/
  | unregister
  /-- The check found the metric: `Unregister` is about to delete it under the write lock,
  then return `true`. -/
  | remove
  /-- `Unregister` returned `false`: about to call `Register`. -/
  | register
  /-- About to write the entry `e` through `m.log`. -/
  | log (e : LogEntry)
  deriving DecidableEq, Repr

/-- Where a call is: the index in `metricsToRegister` of its current metric, and the step of
the loop body it is at. -/
structure Pc where
  /-- The index of the current metric; `metricsToRegister.length` once the loop is over. -/
  index : Nat
  /-- The step of the loop body. -/
  phase : Phase
  deriving DecidableEq, Repr

/-- The entry the call is about to write, if any. -/
def Pc.pending (pc : Pc) : Option LogEntry :=
  match pc.phase with
  | .log e => some e
  | _ => none

/-- What one step of the loop body does. -/
structure Outcome where
  /-- The registry after the step. -/
  registry : Registry Collector
  /-- The entries the step writes. -/
  written : List LogEntry
  /-- Where the call goes next. -/
  next : Pc

/-- One step of the loop body of `NewServer` for `metric`, the `index`-th metric, at
`phase`: `Unregister` (`Registry.unregister`) is its check and its delete. -/
def advance (registry : Registry Collector) (metric : Collector) (index : Nat) :
    Phase → Outcome
  | .unregister =>
    match registry.collectorsByID metric.desc.fqName with
    | none => ⟨registry, [], ⟨index, .register⟩⟩
    | some _ => ⟨registry, [], ⟨index, .remove⟩⟩
  | .remove => ⟨registry.remove metric.desc.fqName, [], ⟨index, .log (skipEntry metric)⟩⟩
  | .register =>
    match registry.register Collector.desc metric with
    | .error err => ⟨registry, [], ⟨index, .log (failedEntry metric err)⟩⟩
    | .ok registry => ⟨registry, [], ⟨index, .log (registeredEntry metric)⟩⟩
  | .log e => ⟨registry, [e], ⟨index + 1, .unregister⟩⟩

/-- The registry and the log that the calls share, and where each call is. -/
structure State where
  /-- `m.registry`. -/
  registry : Registry Collector
  /-- The entries written through `m.log`. -/
  log : List LogEntry
  /-- The calls, by number. -/
  calls : List Pc

/-- `n` calls of `NewServer` on `m`, none of which has taken a step. -/
def start (m : Metrics) (n : Nat) : State :=
  ⟨m.registry, m.log, List.replicate n ⟨0, .unregister⟩⟩

/-- One atomic step of call `i`; `none` if there is no call `i` or its loop is over. -/
def step (s : State) (i : Nat) : Option State :=
  match s.calls[i]? with
  | none => none
  | some pc =>
    match metricsToRegister[pc.index]? with
    | none => none
    | some metric =>
      let o := advance s.registry metric pc.index pc.phase
      some ⟨o.registry, s.log ++ o.written, s.calls.set i o.next⟩

/-- The steps of the calls `sched`, in order. -/
def exec (s : State) (sched : List Nat) : Option State := runSteps step s sched

/-- The entries written, then those the calls are about to write. -/
def State.entries (s : State) : List LogEntry := s.log ++ s.calls.filterMap Pc.pending

/-! ### The entries -/

@[simp] theorem fqName_eq_iff {c c' : Collector} : c.desc.fqName = c'.desc.fqName ↔ c = c' :=
  Collector.fqName_injective.eq_iff

@[simp] theorem registeredEntry_inj {c c' : Collector} :
    registeredEntry c = registeredEntry c' ↔ c = c' := by
  simp [registeredEntry, Collector.desc_injective.eq_iff]

@[simp] theorem skipEntry_inj {c c' : Collector} : skipEntry c = skipEntry c' ↔ c = c' := by
  simp [skipEntry, Collector.desc_injective.eq_iff]

@[simp] theorem registeredEntry_ne_skipEntry (c c' : Collector) :
    registeredEntry c ≠ skipEntry c' := by
  simp [registeredEntry, skipEntry]

@[simp] theorem skipEntry_ne_registeredEntry (c c' : Collector) :
    skipEntry c ≠ registeredEntry c' :=
  (registeredEntry_ne_skipEntry c' c).symm

@[simp] theorem failedEntry_ne_registeredEntry (c c' : Collector) (err : RegisterError Collector) :
    failedEntry c err ≠ registeredEntry c' := by
  simp [failedEntry, registeredEntry]

@[simp] theorem failedEntry_ne_skipEntry (c c' : Collector) (err : RegisterError Collector) :
    failedEntry c err ≠ skipEntry c' := by
  simp [failedEntry, skipEntry]

theorem count_filterMap_set {α β : Type} [DecidableEq β] (f : α → Option β) (b : β) (x : α) :
    ∀ {l : List α} {i : Nat} {y : α}, l[i]? = some y →
      ((l.set i x).filterMap f).count b + (f y).toList.count b =
        (l.filterMap f).count b + (f x).toList.count b
  | a :: l, 0, y, h => by
    obtain rfl : a = y := by simpa using h
    cases hx : f x <;> cases ha : f a <;> simp [List.filterMap_cons, List.count_cons, hx, ha]
    omega
  | a :: l, i + 1, y, h => by
    have ih := count_filterMap_set f b x (show l[i]? = some y by simpa using h)
    cases ha : f a <;> simp [List.filterMap_cons, List.count_cons, ha] <;> omega

/-- A step of call `i` moves the entry the call was about to write, if any, to the log, and
adds what it writes and what it will write next. -/
theorem entries_perm {s : State} {i : Nat} {pc : Pc} (hpc : s.calls[i]? = some pc)
    (o : Outcome) :
    ((⟨o.registry, s.log ++ o.written, s.calls.set i o.next⟩ : State).entries ++
      pc.pending.toList).Perm (s.entries ++ o.written ++ o.next.pending.toList) := by
  refine List.perm_iff_count.2 fun b => ?_
  have := count_filterMap_set Pc.pending b o.next hpc
  simp only [State.entries, List.count_append] at this ⊢
  omega

/-! ### What a step can do -/

/-- **Everything one step of the loop body can do**: the check finds the metric absent and
moves on to `Register`, or finds it and moves on to the delete; the delete removes whatever
the name holds by then; `Register` refuses or adds the metric; the entry is written and the
call moves to the next metric. -/
theorem advance_cases (r : Registry Collector) (metric : Collector) (j : Nat) (ph : Phase) :
    (ph = .unregister ∧ r.collectorsByID metric.desc.fqName = none ∧
      advance r metric j ph = ⟨r, [], ⟨j, .register⟩⟩) ∨
    (ph = .unregister ∧ (r.collectorsByID metric.desc.fqName).isSome ∧
      advance r metric j ph = ⟨r, [], ⟨j, .remove⟩⟩) ∨
    (ph = .remove ∧
      advance r metric j ph = ⟨r.remove metric.desc.fqName, [], ⟨j, .log (skipEntry metric)⟩⟩) ∨
    (∃ err, ph = .register ∧ r.register Collector.desc metric = .error err ∧
      advance r metric j ph = ⟨r, [], ⟨j, .log (failedEntry metric err)⟩⟩) ∨
    (∃ r', ph = .register ∧ r.register Collector.desc metric = .ok r' ∧
      advance r metric j ph = ⟨r', [], ⟨j, .log (registeredEntry metric)⟩⟩) ∨
    (∃ e, ph = .log e ∧ advance r metric j ph = ⟨r, [e], ⟨j + 1, .unregister⟩⟩) := by
  cases ph with
  | unregister =>
    cases hc : r.collectorsByID metric.desc.fqName with
    | none => exact .inl ⟨rfl, rfl, by simp [advance, hc]⟩
    | some e => exact .inr (.inl ⟨rfl, rfl, by simp [advance, hc]⟩)
  | remove => exact .inr (.inr (.inl ⟨rfl, rfl⟩))
  | register =>
    cases hr : r.register Collector.desc metric with
    | error err => exact .inr (.inr (.inr (.inl ⟨err, rfl, rfl, by simp [advance, hr]⟩)))
    | ok r' => exact .inr (.inr (.inr (.inr (.inl ⟨r', rfl, rfl, by simp [advance, hr]⟩))))
  | log e => exact .inr (.inr (.inr (.inr (.inr ⟨e, rfl, rfl⟩))))

theorem step_some {s s' : State} {i : Nat} (h : step s i = some s') :
    ∃ pc metric, s.calls[i]? = some pc ∧ metricsToRegister[pc.index]? = some metric ∧
      s' = ⟨(advance s.registry metric pc.index pc.phase).registry,
        s.log ++ (advance s.registry metric pc.index pc.phase).written,
        s.calls.set i (advance s.registry metric pc.index pc.phase).next⟩ := by
  unfold step at h
  split at h
  · cases h
  · rename_i pc hpc
    split at h
    · cases h
    · rename_i metric hm
      exact ⟨pc, metric, hpc, hm, (Option.some.inj h).symm⟩

/-- **Everything a step of call `i` can do to the shared state**, the entries counted with
those the calls are about to write. -/
theorem step_cases {s s' : State} {i : Nat} (h : step s i = some s') :
    ∃ pc metric, s.calls[i]? = some pc ∧ metricsToRegister[pc.index]? = some metric ∧
      ((s'.registry = s.registry ∧ s'.entries.Perm s.entries ∧
          s'.calls = s.calls.set i ⟨pc.index, .register⟩) ∨
        (s'.registry = s.registry ∧ s'.entries.Perm s.entries ∧
          s'.calls = s.calls.set i ⟨pc.index, .remove⟩) ∨
        (s'.registry = s.registry.remove metric.desc.fqName ∧
          s'.entries.Perm (s.entries ++ [skipEntry metric]) ∧
          s'.calls = s.calls.set i ⟨pc.index, .log (skipEntry metric)⟩) ∨
        (∃ err, s.registry.register Collector.desc metric = .error err ∧
          s'.registry = s.registry ∧ s'.entries.Perm (s.entries ++ [failedEntry metric err]) ∧
          s'.calls = s.calls.set i ⟨pc.index, .log (failedEntry metric err)⟩) ∨
        (∃ r', s.registry.register Collector.desc metric = .ok r' ∧ s'.registry = r' ∧
          s'.entries.Perm (s.entries ++ [registeredEntry metric]) ∧
          s'.calls = s.calls.set i ⟨pc.index, .log (registeredEntry metric)⟩) ∨
        (s'.registry = s.registry ∧ s'.entries.Perm s.entries ∧
          s'.calls = s.calls.set i ⟨pc.index + 1, .unregister⟩)) := by
  obtain ⟨pc, metric, hpc, hm, rfl⟩ := step_some h
  have hperm := entries_perm hpc (advance s.registry metric pc.index pc.phase)
  refine ⟨pc, metric, hpc, hm, ?_⟩
  rcases advance_cases s.registry metric pc.index pc.phase with
    ⟨hph, -, ho⟩ | ⟨hph, -, ho⟩ | ⟨hph, ho⟩ | ⟨err, hph, hr, ho⟩ | ⟨r', hph, hr, ho⟩ |
    ⟨e, hph, ho⟩ <;>
    rw [ho] at hperm ⊢ <;> simp only [Pc.pending, hph, Option.toList, List.append_nil] at hperm ⊢
  · exact .inl ⟨by trivial, hperm, by trivial⟩
  · exact .inr (.inl ⟨by trivial, hperm, by trivial⟩)
  · exact .inr (.inr (.inl ⟨by trivial, hperm, by trivial⟩))
  · exact .inr (.inr (.inr (.inl ⟨err, hr, by trivial, hperm, by trivial⟩)))
  · exact .inr (.inr (.inr (.inr (.inl ⟨r', hr, by trivial, hperm, by trivial⟩))))
  · exact .inr (.inr (.inr (.inr (.inr ⟨by trivial, (List.perm_append_right_iff _).1 hperm,
      by trivial⟩))))

/-! ### The invariant -/

/-- What every interleaving of calls started on `New`'s `Metrics` keeps. -/
structure Inv (s : State) : Prop where
  /-- Every name keeps the dimensions of the one collector that has it. -/
  dims : s.registry.DimsAgreeAll
  /-- Each name holds its own collector, if any. -/
  own : ∀ x c, s.registry.collectorsByID x = some c → c.desc.fqName = x
  /-- A registered collector has a `Registered metric` entry, and its `Registered metric`
  entries are at most its `Metric already registered; skipping` entries, plus one if it is
  registered. -/
  balance : ∀ c, (if (s.registry.collectorsByID c.desc.fqName).isSome then 1 else 0) ≤
      s.entries.count (registeredEntry c) ∧
    s.entries.count (registeredEntry c) ≤
      s.entries.count (skipEntry c) + if (s.registry.collectorsByID c.desc.fqName).isSome then 1 else 0
  /-- Every refused registration is a collector refused for itself. -/
  refused : ∀ e ∈ s.entries, e.isRegisterError = true →
    ∃ c, e = failedEntry c (.alreadyRegistered c c)
  /-- A call past its last metric is at the check of the loop. -/
  checking : ∀ pc ∈ s.calls, pc.phase = .unregister ∨ pc.index < metricsToRegister.length

theorem inv_start (n : Nat) : Inv (start Metrics.new n) where
  dims := dimsAgreeAll_new
  own _ _ h := nomatch h
  balance _ := by simp [start, State.entries, Metrics.new, Pc.pending, Registry.new]
  refused _ h := by simp [start, State.entries, Metrics.new, Pc.pending] at h
  checking _ h := .inl (List.eq_of_mem_replicate h ▸ rfl)

theorem count_of_perm {l l' : List LogEntry} {e : LogEntry} (h : l'.Perm (l ++ [e])) (b : LogEntry) :
    l'.count b = l.count b + if e = b then 1 else 0 := by
  simp [h.count_eq, List.count_singleton]

theorem forall_mem_of_perm {l l' : List LogEntry} {e : LogEntry} {P : LogEntry → Prop}
    (hp : l'.Perm (l ++ [e])) (h : ∀ x ∈ l, P x) (he : P e) : ∀ x ∈ l', P x := fun x hx =>
  (List.mem_append.1 (hp.subset hx)).elim (h x) fun hx => List.mem_singleton.1 hx ▸ he

theorem Inv.checking_set {s : State} (hs : Inv s) {i : Nat} {pc : Pc} {metric : Collector} (hm : metricsToRegister[pc.index]? = some metric) {next : Pc}
    (hnext : next.phase = .unregister ∨ next.index = pc.index) :
    ∀ pc' ∈ s.calls.set i next, pc'.phase = .unregister ∨ pc'.index < metricsToRegister.length := by
  intro pc' h
  rcases List.mem_or_eq_of_mem_set h with h | rfl
  · exact hs.checking pc' h
  · exact hnext.imp_right fun (h : pc'.index = pc.index) => h ▸ (List.getElem?_eq_some_iff.1 hm).1

/-- A step that leaves the registry and the entries as they were keeps the invariant, the call
moving on within its metric or to the check of the next one. -/
theorem Inv.frame {s s' : State} (hs : Inv s) {pc : Pc} {metric : Collector}
    (hm : metricsToRegister[pc.index]? = some metric) {i : Nat} {next : Pc}
    (hr : s'.registry = s.registry) (hp : s'.entries.Perm s.entries)
    (hc : s'.calls = s.calls.set i next) (hnext : next.phase = .unregister ∨ next.index = pc.index) :
    Inv s' where
  dims := hr ▸ hs.dims
  own := hr ▸ hs.own
  balance c := by simpa only [hr, hp.count_eq] using hs.balance c
  refused e he := hs.refused e (hp.subset he)
  checking := hc ▸ hs.checking_set hm hnext

theorem Inv.of_step {s s' : State} {i : Nat} (hs : Inv s) (h : step s i = some s') : Inv s' := by
  obtain ⟨pc, metric, -, hm, hcases⟩ := step_cases h
  rcases s' with ⟨r', log', calls'⟩
  rcases hcases with ⟨hr, hp, hc⟩ | ⟨hr, hp, hc⟩ | ⟨rfl, hp, rfl⟩ | ⟨err, he, rfl, hp, rfl⟩ |
    ⟨r', hok, rfl, hp, rfl⟩ | ⟨hr, hp, hc⟩
  · -- the check finds the metric absent
    exact hs.frame hm hr hp hc (.inr rfl)
  · -- the check finds the metric
    exact hs.frame hm hr hp hc (.inr rfl)
  · -- the delete removes whatever the name holds
    refine ⟨hs.dims.remove _, fun x c h => ?_, fun c => ?_,
      forall_mem_of_perm hp hs.refused (by simp [skipEntry, LogEntry.isRegisterError]),
      hs.checking_set hm (.inr rfl)⟩
    · rw [remove_collectorsByID] at h
      split_ifs at h
      exact hs.own x c h
    · have hb := hs.balance c
      rcases eq_or_ne c metric with rfl | hcm
      · simp only [count_of_perm hp, remove_collectorsByID, if_true] at hb ⊢
        split_ifs at hb <;> simp at hb ⊢ <;> omega
      · simpa [count_of_perm hp, hcm, Ne.symm hcm] using hb
  · -- `Register` refuses the metric: it is registered under its own name
    rcases register_eq_error he with ⟨hd, -⟩ | ⟨e, -, hc, rfl⟩
    · exact absurd (hs.dims metric) (by simp [hd])
    obtain rfl : e = metric := Collector.fqName_injective (hs.own _ e hc)
    exact ⟨hs.dims, hs.own, fun c => by simpa [count_of_perm hp] using hs.balance c,
      forall_mem_of_perm hp hs.refused fun _ => ⟨e, rfl⟩, hs.checking_set hm (.inr rfl)⟩
  · -- `Register` adds the metric, which was absent
    obtain ⟨hd, hc, rfl⟩ := register_eq_ok.1 hok
    refine ⟨hs.dims.insert metric, fun x c h => ?_, fun c => ?_,
      forall_mem_of_perm hp hs.refused (by simp [registeredEntry, LogEntry.isRegisterError]),
      hs.checking_set hm (.inr rfl)⟩
    · rw [insert_collectorsByID] at h
      split_ifs at h with hx
      · exact (Option.some.inj h) ▸ hx.symm
      · exact hs.own x c h
    · have hb := hs.balance c
      rcases eq_or_ne c metric with rfl | hcm
      · simp [count_of_perm hp, hc] at hb ⊢
        omega
      · simpa [count_of_perm hp, hcm, Ne.symm hcm] using hb
  · -- the entry is written and the call moves on
    exact hs.frame hm hr hp hc (.inl rfl)

theorem Inv.of_exec {s s' : State} (hs : Inv s) {sched : List Nat} (h : exec s sched = some s') :
    Inv s' :=
  runSteps_invariant (fun _ _ _ _ ht h₁ => ht.of_step h₁) hs h

theorem step_eq_none {s : State} {i : Nat} {pc : Pc} (hpc : s.calls[i]? = some pc)
    (h : step s i = none) : metricsToRegister[pc.index]? = none := by
  cases hm : metricsToRegister[pc.index]? <;> simp_all [step]

/-- Once no call can take a step, no entry is pending. -/
theorem Inv.entries_eq_log {s : State} (hs : Inv s) (h : ∀ i, step s i = none) :
    s.entries = s.log := by
  suffices s.calls.filterMap Pc.pending = [] by simp [State.entries, this]
  refine List.filterMap_eq_nil_iff.2 fun pc hpc => ?_
  obtain ⟨i, hi⟩ := List.getElem?_of_mem hpc
  rcases hs.checking pc hpc with hph | hlt
  · simp [Pc.pending, hph]
  · exact absurd (step_eq_none hi (h i)) (by simp [hlt])

/-- **Along every interleaving of calls of `NewServer` on `New`'s `Metrics`**, each name of the
registry holds its own collector or nothing; counting the entries the calls are about to write,
a registered collector has a `Registered metric` entry, and the `Registered metric` entries of a
collector are at most its `Metric already registered; skipping` entries, plus one if it is
registered; every `Failed to register metric` entry is an `AlreadyRegisteredError` of a
collector by itself, never a clash of dimensions; and once every call has returned, no entry is
left to write. -/
theorem exec_log_accounts_for_registry {n : Nat} {sched : List Nat} {s : State}
    (h : exec (start Metrics.new n) sched = some s) :
    (∀ x c, s.registry.collectorsByID x = some c → c.desc.fqName = x) ∧
      (∀ c, (if (s.registry.collectorsByID c.desc.fqName).isSome then 1 else 0) ≤
          s.entries.count (registeredEntry c) ∧
        s.entries.count (registeredEntry c) ≤ s.entries.count (skipEntry c) +
          if (s.registry.collectorsByID c.desc.fqName).isSome then 1 else 0) ∧
      (∀ e ∈ s.entries, e.isRegisterError = true →
        ∃ c, e = failedEntry c (.alreadyRegistered c c)) ∧
      ((∀ i, step s i = none) → s.entries = s.log) :=
  have hs := (inv_start n).of_exec h
  ⟨hs.own, hs.balance, hs.refused, hs.entries_eq_log⟩

/-- Three calls: the first registers `certificateRequestCount`; the other two both find it,
then both delete it and log that they skip it.  The log holds one `Registered metric` entry
and two `Metric already registered; skipping` entries for a collector the registry no longer
holds. -/
theorem exec_log_accounts_for_registry_three_calls :
    ∃ s, exec (start Metrics.new 3) [0, 0, 0, 1, 2, 1, 2, 1, 2] = some s ∧
      s.log.count (registeredEntry .certificateRequestCount) = 1 ∧
      s.log.count (skipEntry .certificateRequestCount) = 2 ∧
      s.registry.collectorsByID Collector.certificateRequestCount.desc.fqName = none ∧
      ((∀ x c, s.registry.collectorsByID x = some c → c.desc.fqName = x) ∧
      (∀ c, (if (s.registry.collectorsByID c.desc.fqName).isSome then 1 else 0) ≤
          s.entries.count (registeredEntry c) ∧
        s.entries.count (registeredEntry c) ≤ s.entries.count (skipEntry c) +
          if (s.registry.collectorsByID c.desc.fqName).isSome then 1 else 0) ∧
      (∀ e ∈ s.entries, e.isRegisterError = true →
        ∃ c, e = failedEntry c (.alreadyRegistered c c)) ∧
      ((∀ i, step s i = none) → s.entries = s.log)) := by
  obtain ⟨s, hs⟩ := Option.isSome_iff_exists.1
    (rfl : (exec (start Metrics.new 3) [0, 0, 0, 1, 2, 1, 2, 1, 2]).isSome = true)
  have hobs : (exec (start Metrics.new 3) [0, 0, 0, 1, 2, 1, 2, 1, 2]).map (fun s =>
      (s.log.count (registeredEntry .certificateRequestCount),
        s.log.count (skipEntry .certificateRequestCount),
        s.registry.collectorsByID Collector.certificateRequestCount.desc.fqName)) =
      some (1, 2, none) := rfl
  rw [hs] at hobs
  obtain ⟨h₁, h₂, h₃⟩ := by simpa only [Option.map_some', Option.some.injEq, Prod.mk.injEq] using hobs
  exact ⟨s, hs, h₁, h₂, h₃, exec_log_accounts_for_registry hs⟩

/-! ### A call that runs alone -/

theorem set_of_getElem? {α : Type} {l : List α} {i : Nat} {y : α} (h : l[i]? = some y) :
    l.set i y = l :=
  List.ext_getElem? fun j => by
    by_cases hij : i = j
    · subst hij
      rw [h, List.getElem?_set_self (List.getElem?_eq_some_iff.1 h).1]
    · exact List.getElem?_set_ne hij

/-- Call `i`, running alone, takes the step of the loop body it is at. -/
theorem exec_solo_succ {r : Registry Collector} {log : List LogEntry} {calls : List Pc} {i : Nat}
    (hi : i < calls.length) {j : Nat} {metric : Collector} (hj : metricsToRegister[j]? = some metric)
    (ph : Phase) (k : Nat) :
    exec ⟨r, log, calls.set i ⟨j, ph⟩⟩ (List.replicate (k + 1) i) =
      exec ⟨(advance r metric j ph).registry, log ++ (advance r metric j ph).written,
        calls.set i (advance r metric j ph).next⟩ (List.replicate k i) := by
  simp [List.replicate_succ, exec, runSteps, step, hi, hj]

/-- A call that runs alone through the loop body for one metric has the effect of one
iteration of the sequential loop (`Metrics.registerMetric`). -/
theorem exec_solo_registerMetric {r : Registry Collector} {log : List LogEntry} {calls : List Pc}
    {i : Nat} (hi : i < calls.length) {j : Nat} {metric : Collector}
    (hj : metricsToRegister[j]? = some metric) (m : Metrics) (hr : m.registry = r) (hl : m.log = log) :
    ∃ k, exec ⟨r, log, calls.set i ⟨j, .unregister⟩⟩ (List.replicate k i) =
      some ⟨(m.registerMetric metric).registry, (m.registerMetric metric).log,
        calls.set i ⟨j + 1, .unregister⟩⟩ := by
  refine ⟨3, ?_⟩
  rw [exec_solo_succ hi hj]
  cases hc : r.collectorsByID metric.desc.fqName with
  | some e =>
    -- the check finds the metric, the delete removes it, then the call logs that it skips it
    rw [registerMetric_of_some (hr ▸ hc)]
    simp only [advance, hc, List.append_nil]
    rw [exec_solo_succ hi hj]
    simp only [advance, List.append_nil]
    rw [exec_solo_succ hi hj]
    simp [advance, exec, runSteps, hr, hl]
  | none =>
    -- the check finds nothing, then the call registers the metric and logs the outcome
    rw [registerMetric_of_none (hr ▸ hc)]
    simp only [advance, hc, List.append_nil]
    rw [exec_solo_succ hi hj]
    cases hreg : r.register Collector.desc metric <;>
      simp only [advance, hreg, hr, hl, List.append_nil] <;>
      rw [exec_solo_succ hi hj] <;> simp [advance, exec, runSteps]

/-- A call that runs alone from the `j`-th metric on goes through the rest of the loop as the
sequential loop does. -/
theorem exec_solo_foldl {calls : List Pc} {i : Nat} (hi : i < calls.length) :
    ∀ (L : List Collector) (j : Nat), metricsToRegister.drop j = L → ∀ (m : Metrics),
      ∃ k, exec ⟨m.registry, m.log, calls.set i ⟨j, .unregister⟩⟩ (List.replicate k i) =
        some ⟨(L.foldl registerMetric m).registry, (L.foldl registerMetric m).log,
          calls.set i ⟨j + L.length, .unregister⟩⟩
  | [], _, _, _ => ⟨0, rfl⟩
  | metric :: L, j, hL, m => by
    have hj : metricsToRegister[j]? = some metric := by
      rw [← Nat.add_zero j, ← List.getElem?_drop, hL, List.getElem?_cons_zero]
    obtain ⟨k₁, h₁⟩ := exec_solo_registerMetric hi hj m rfl rfl
    obtain ⟨k₂, h₂⟩ := exec_solo_foldl hi L (j + 1)
      (by rw [← List.drop_drop, hL, List.drop_one, List.tail_cons]) (m.registerMetric metric)
    refine ⟨k₁ + k₂, ?_⟩
    rw [List.replicate_add, exec, runSteps_append_of_eq h₁, List.foldl_cons, List.length_cons,
      ← Nat.add_assoc, Nat.add_right_comm]
    exact h₂

/-- **A call of `NewServer` whose steps run with no other step in between has the effect of
the sequential `NewServer`**: from any state, the registry and the log it leaves are those of
`Metrics.newServer` on a `Metrics` with the same registry and log. -/
theorem exec_solo_newServer {s : State} {i : Nat} (hi : s.calls[i]? = some ⟨0, .unregister⟩)
    (m : Metrics) (hr : m.registry = s.registry) (hl : m.log = s.log) (addr : String) :
    ∃ k, exec s (List.replicate k i) = some ⟨(m.newServer addr).1.registry,
      (m.newServer addr).1.log, s.calls.set i ⟨metricsToRegister.length, .unregister⟩⟩ := by
  obtain ⟨k, hk⟩ := exec_solo_foldl (List.getElem?_eq_some_iff.1 hi).1 _ 0 rfl m
  rw [set_of_getElem? hi, hr, hl, Nat.zero_add] at hk
  exact ⟨k, by rw [newServer_fst]; exact hk⟩

/-- One call alone on `New`'s `Metrics` registers as the sequential `NewServer` does. -/
theorem exec_solo_newServer_new :
    (start Metrics.new 1).calls[0]? = some ⟨0, .unregister⟩ ∧
      ∃ k, exec (start Metrics.new 1) (List.replicate k 0) =
        some ⟨(Metrics.new.newServer ":9402").1.registry, (Metrics.new.newServer ":9402").1.log,
          (start Metrics.new 1).calls.set 0 ⟨metricsToRegister.length, .unregister⟩⟩ :=
  ⟨rfl, exec_solo_newServer rfl Metrics.new rfl rfl ":9402"⟩

end ConcurrentNewServer

end CertManagerMetrics
