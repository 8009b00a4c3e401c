import CertManagerMetrics.Metrics

/-!
# Repeated calls of `NewServer`

The loop of `NewServer` asks `Unregister` whether a metric is already registered.
`Unregister` answers by removing it, and the loop then skips the metric, so one iteration
*toggles* the registration of its collector (`Metrics.registerMetric_registry`).  Since the
eleven collectors have distinct names (`Collector.fqName_injective`), one call of `NewServer`
toggles every one of them (`Metrics.newServer_collectorsByID`), and after `k` calls on the
`Metrics` returned by `New` the registry holds all eleven collectors when `k` is odd and none
when `k` is even (`Metrics.newServers_collectorsByID`).  Since `Unregister` keeps the
dimensions recorded for a name, which are those of the one collector of that name, no call
logs a refused registration (`Metrics.newServer_registerErrors`).
-/

namespace CertManagerMetrics

namespace Collector

/-- The collector whose descriptor has the name `x`. -/
def ofName (x : String) : Option Collector := metricsToRegister.find? (·.desc.fqName = x)

theorem ofName_desc (c : Collector) : ofName c.desc.fqName = some c := by
  cases c <;> rfl

/-- The eleven collectors have distinct fully-qualified names. -/
theorem fqName_injective : Function.Injective fun c : Collector => c.desc.fqName := by
  intro c c' (h : c.desc.fqName = c'.desc.fqName)
  have h' : ofName c.desc.fqName = some c' := h ▸ ofName_desc c'
  exact Option.some.inj ((ofName_desc c).symm.trans h')

theorem desc_injective : Function.Injective Collector.desc :=
  fun _ _ h => fqName_injective (congrArg Desc.fqName h)

theorem mem_metricsToRegister (c : Collector) : c ∈ metricsToRegister := by
  cases c <;> simp [metricsToRegister]

theorem nodup_metricsToRegister : metricsToRegister.Nodup := by decide

end Collector

namespace Registry

/-- The registration of `c` after `Unregister` used as a check: a registered collector is
removed, an unregistered one added. -/
def toggle (r : Registry Collector) (c : Collector) : Registry Collector :=
  if (r.collectorsByID c.desc.fqName).isSome then r.remove c.desc.fqName else r.insert c.desc c

/-- Every collector may be registered: the dimensions recorded for its name are its own. -/
def DimsAgreeAll (r : Registry Collector) : Prop := ∀ c : Collector, r.dimsAgree c.desc = true

/-- What a toggle leaves at the name of `c`. -/
def toggled (c : Collector) (o : Option Collector) : Option Collector :=
  if o.isSome then none else some c

theorem toggle_collectorsByID (r : Registry Collector) (c : Collector) (x : String) :
    (r.toggle c).collectorsByID x =
      if x = c.desc.fqName then toggled c (r.collectorsByID x) else r.collectorsByID x := by
  unfold toggle toggled
  split_ifs <;> simp_all

theorem dimsAgreeAll_new : DimsAgreeAll (new : Registry Collector) := fun _ => rfl

theorem DimsAgreeAll.remove {r : Registry Collector} (h : r.DimsAgreeAll) (x : String) :
    (r.remove x).DimsAgreeAll :=
  h

/-- Registering a collector records its own dimensions under its name. -/
theorem DimsAgreeAll.insert {r : Registry Collector} (h : r.DimsAgreeAll) (c : Collector) :
    (r.insert c.desc c).DimsAgreeAll := by
  intro c'
  by_cases hc : c'.desc.fqName = c.desc.fqName
  · obtain rfl := Collector.fqName_injective hc
    simp [dimsAgree]
  · simpa [dimsAgree, hc] using h c'

theorem DimsAgreeAll.toggle {r : Registry Collector} (h : r.DimsAgreeAll) (c : Collector) :
    (r.toggle c).DimsAgreeAll := by
  unfold Registry.toggle
  split_ifs
  exacts [h.remove _, h.insert c]

theorem DimsAgreeAll.foldl_toggle {r : Registry Collector} (h : r.DimsAgreeAll)
    (L : List Collector) : (L.foldl Registry.toggle r).DimsAgreeAll := by
  induction L generalizing r with
  | nil => exact h
  | cons c L ih => exact ih (h.toggle c)

theorem foldl_toggle_of_not_mem {L : List Collector} {x : String}
    (hx : ∀ c ∈ L, c.desc.fqName ≠ x) (r : Registry Collector) :
    (L.foldl toggle r).collectorsByID x = r.collectorsByID x := by
  induction L generalizing r with
  | nil => rfl
  | cons c L ih =>
    rw [List.foldl_cons, ih (fun c' hc' => hx c' (List.mem_cons_of_mem c hc')),
      toggle_collectorsByID, if_neg (hx c (List.mem_cons_self c L)).symm]

theorem foldl_toggle_of_mem {L : List Collector} (hL : L.Nodup) {c : Collector} (hc : c ∈ L)
    (r : Registry Collector) :
    (L.foldl toggle r).collectorsByID c.desc.fqName = toggled c (r.collectorsByID c.desc.fqName) := by
  induction L generalizing r with
  | nil => cases hc
  | cons c₀ L ih =>
    obtain ⟨hc₀, hL⟩ := List.nodup_cons.1 hL
    rw [List.foldl_cons]
    by_cases h : c = c₀
    · subst h
      rw [foldl_toggle_of_not_mem (fun c' hc' he => hc₀ (by rwa [← Collector.fqName_injective he])),
        toggle_collectorsByID, if_pos rfl]
    · have hne : c.desc.fqName ≠ c₀.desc.fqName := fun he => h (Collector.fqName_injective he)
      rw [ih hL (List.mem_of_ne_of_mem h hc), toggle_collectorsByID, if_neg hne]

end Registry

namespace Metrics

open Registry

/-- **One iteration of the loop of `NewServer` toggles its collector**, as long as the
dimensions recorded for its name are its own. -/
theorem registerMetric_registry (m : Metrics) (c : Collector)
    (h : m.registry.dimsAgree c.desc = true) :
    (m.registerMetric c).registry = m.registry.toggle c := by
  unfold registerMetric Registry.toggle
  cases hc : m.registry.collectorsByID c.desc.fqName with
  | none => simp [unregister_of_none hc, register_of_none h hc]
  | some e => simp [unregister_of_some hc]

theorem foldl_registerMetric_registry (L : List Collector) (m : Metrics)
    (h : m.registry.DimsAgreeAll) :
    (L.foldl registerMetric m).registry = L.foldl toggle m.registry := by
  induction L generalizing m with
  | nil => rfl
  | cons c L ih =>
    have h₁ := registerMetric_registry m c (h c)
    rw [List.foldl_cons, List.foldl_cons, ih _ (h₁ ▸ h.toggle c), h₁]

theorem newServer_registry (m : Metrics) (addr : String) (h : m.registry.DimsAgreeAll) :
    (m.newServer addr).1.registry = metricsToRegister.foldl toggle m.registry :=
  foldl_registerMetric_registry _ m h

/-- **One call of `NewServer` toggles every collector** and no other name. -/
theorem newServer_collectorsByID (m : Metrics) (addr : String) (h : m.registry.DimsAgreeAll)
    (x : String) :
    (m.newServer addr).1.registry.collectorsByID x =
      match Collector.ofName x with
      | some c => toggled c (m.registry.collectorsByID x)
      | none => m.registry.collectorsByID x := by
  rw [newServer_registry m addr h]
  split
  · rename_i c hc
    have hx : c.desc.fqName = x := by
      simpa [Collector.ofName] using List.find?_some hc
    subst hx
    exact foldl_toggle_of_mem Collector.nodup_metricsToRegister
      (Collector.mem_metricsToRegister c) _
  · rename_i hc
    exact foldl_toggle_of_not_mem (fun c _ he => by simp [← he, Collector.ofName_desc] at hc) _

/-- While the dimensions recorded for its name are its own, the loop never logs a refused
registration: a collector it registers is new at its name. -/
theorem registerMetric_registerErrors (m : Metrics) (c : Collector)
    (h : m.registry.dimsAgree c.desc = true) :
    (m.registerMetric c).log.filter LogEntry.isRegisterError =
      m.log.filter LogEntry.isRegisterError := by
  unfold registerMetric
  cases hc : m.registry.collectorsByID c.desc.fqName with
  | none => simp [unregister_of_none hc, register_of_none h hc, LogEntry.isRegisterError]
  | some e => simp [unregister_of_some hc, LogEntry.isRegisterError]

theorem foldl_registerMetric_registerErrors (L : List Collector) (m : Metrics)
    (h : m.registry.DimsAgreeAll) :
    (L.foldl registerMetric m).log.filter LogEntry.isRegisterError =
      m.log.filter LogEntry.isRegisterError := by
  induction L generalizing m with
  | nil => rfl
  | cons c L ih =>
    have h₁ := registerMetric_registry m c (h c)
    rw [List.foldl_cons, ih _ (h₁ ▸ h.toggle c), registerMetric_registerErrors m c (h c)]

/-- **`NewServer` never logs a refused registration** while every collector may be
registered. -/
theorem newServer_registerErrors (m : Metrics) (addr : String) (h : m.registry.DimsAgreeAll) :
    (m.newServer addr).1.log.filter LogEntry.isRegisterError =
      m.log.filter LogEntry.isRegisterError := by
  rw [newServer_fst]
  exact foldl_registerMetric_registerErrors _ m h

theorem newServer_dimsAgreeAll (m : Metrics) (addr : String) (h : m.registry.DimsAgreeAll) :
    (m.newServer addr).1.registry.DimsAgreeAll := by
  rw [newServer_registry m addr h]
  exact h.foldl_toggle _

/-- The entry the loop of `NewServer` writes when it skips `c`. -/
def skipEntry (c : Collector) : LogEntry :=
  .info "Metric already registered; skipping" [("name", .desc c.desc)]

/-- The entry the loop of `NewServer` writes when `Register` accepts `c`. -/
def registeredEntry (c : Collector) : LogEntry :=
  .info "Registered metric" [("name", .desc c.desc)]

/-- The entry the loop of `NewServer` writes when `Register` refuses `c` with `err`. -/
def failedEntry (c : Collector) (err : RegisterError Collector) : LogEntry :=
  .error (.register err) "Failed to register metric" [("metric", .desc c.desc)]

/-- The loop body on a collector it finds registered: it removes it and logs that it skips
it. -/
theorem registerMetric_of_some {m : Metrics} {c e : Collector}
    (h : m.registry.collectorsByID c.desc.fqName = some e) :
    m.registerMetric c =
      { m with registry := m.registry.remove c.desc.fqName, log := m.log ++ [skipEntry c] } := by
  simp [registerMetric, unregister_of_some h, skipEntry]

/-- The loop body on a collector it finds absent: it registers it and logs the outcome. -/
theorem registerMetric_of_none {m : Metrics} {c : Collector}
    (h : m.registry.collectorsByID c.desc.fqName = none) :
    m.registerMetric c =
      match m.registry.register Collector.desc c with
      | .error err => { m with log := m.log ++ [failedEntry c err] }
      | .ok r => { m with registry := r, log := m.log ++ [registeredEntry c] } := by
  simp only [registerMetric, unregister_of_none h, Bool.not_false, if_true]
  cases m.registry.register Collector.desc c <;> rfl

/-- On a registry that holds every collector of `L`, the loop removes each of them while
logging that it skips it. -/
theorem foldl_registerMetric_of_registered (L : List Collector) (hL : L.Nodup) (m : Metrics)
    (h : ∀ c ∈ L, (m.registry.collectorsByID c.desc.fqName).isSome) :
    (L.foldl registerMetric m).log = m.log ++ L.map skipEntry := by
  induction L generalizing m with
  | nil => simp
  | cons c L ih =>
    obtain ⟨hc, hL⟩ := List.nodup_cons.1 hL
    obtain ⟨e, he⟩ := Option.isSome_iff_exists.1 (h c (List.mem_cons_self c L))
    have hreg : (m.registerMetric c).registry = m.registry.remove c.desc.fqName := by
      simp [registerMetric, unregister_of_some he]
    have hlog : (m.registerMetric c).log = m.log ++ [skipEntry c] := by
      simp [registerMetric, unregister_of_some he, skipEntry]
    rw [List.foldl_cons, ih hL, hlog]
    · simp
    · intro c' hc'
      have hne : c'.desc.fqName ≠ c.desc.fqName := fun he' =>
        hc (by rwa [← Collector.fqName_injective he'])
      simpa [hreg, hne] using h c' (List.mem_cons_of_mem c hc')

/-- `k` successive calls of `NewServer`, on listeners of the addresses `addrs`. -/
def newServers (m : Metrics) (addrs : List String) : Metrics :=
  addrs.foldl (fun m a => (m.newServer a).1) m

theorem newServers_cons (m : Metrics) (a : String) (as : List String) :
    m.newServers (a :: as) = (m.newServer a).1.newServers as :=
  List.foldl_cons _ _

/-- The registry holds all eleven collectors (`b`) or none, with their own dimensions
recorded. -/
def AllOrNone (m : Metrics) (b : Bool) : Prop :=
  m.registry.DimsAgreeAll ∧
    ∀ x, m.registry.collectorsByID x = if b then Collector.ofName x else none

theorem allOrNone_new : Metrics.new.AllOrNone false := ⟨dimsAgreeAll_new, fun _ => rfl⟩

theorem AllOrNone.of_registry_eq {m m' : Metrics} {b : Bool} (h : m.AllOrNone b)
    (hr : m'.registry = m.registry) : m'.AllOrNone b := by
  unfold AllOrNone
  rw [hr]
  exact h

/-- One more call flips the parity of the number of calls. -/
theorem xor_parity_succ (b : Bool) (n : Nat) :
    (!b ^^ decide (n % 2 = 1)) = (b ^^ decide ((n + 1) % 2 = 1)) := by
  rcases Nat.mod_two_eq_zero_or_one n with hp | hp <;> cases b <;> simp [hp] <;> omega

theorem AllOrNone.newServer {m : Metrics} {b : Bool} (h : m.AllOrNone b) (addr : String) :
    (m.newServer addr).1.AllOrNone !b := by
  refine ⟨newServer_dimsAgreeAll m addr h.1, fun x => ?_⟩
  rw [newServer_collectorsByID m addr h.1, h.2]
  cases hx : Collector.ofName x <;> cases b <;> simp [toggled, hx]

theorem AllOrNone.newServers {m : Metrics} {b : Bool} (h : m.AllOrNone b) (addrs : List String) :
    (m.newServers addrs).AllOrNone (b ^^ decide (addrs.length % 2 = 1)) := by
  induction addrs generalizing m b with
  | nil => simpa using h
  | cons a as ih =>
    rw [newServers_cons, List.length_cons, ← xor_parity_succ]
    exact ih (h.newServer a)

/-- **After `k` calls of `NewServer` on the `Metrics` returned by `New`, the registry holds
every collector when `k` is odd and none when `k` is even.** -/
theorem newServers_collectorsByID (addrs : List String) (c : Collector) :
    (Metrics.new.newServers addrs).registry.collectorsByID c.desc.fqName =
      if addrs.length % 2 = 1 then some c else none := by
  rw [(allOrNone_new.newServers addrs).2, Collector.ofName_desc]
  simp

/-- **The second call of `NewServer` empties the registry.**  It logs, for every collector,
that the metric is already registered and skipped, while its `Unregister` check has removed
it, so that afterwards the handler serves no family at all. -/
theorem newServer_second_call_unregisters_all (a b : String) (now : Int) :
    ((Metrics.new.newServer a).1.newServer b).1.log =
        (Metrics.new.newServer a).1.log ++ metricsToRegister.map skipEntry ∧
      ∀ x, ((Metrics.new.newServer a).1.newServer b).1.gather now x = none := by
  have h₁ : (Metrics.new.newServer a).1.AllOrNone true := allOrNone_new.newServer a
  refine ⟨?_, fun x => by simp [gather, (h₁.newServer b).2 x]⟩
  rw [newServer_fst _ b]
  exact foldl_registerMetric_of_registered _ Collector.nodup_metricsToRegister _
    fun c _ => by simp [h₁.2, Collector.ofName_desc]

end Metrics

end CertManagerMetrics
