import Mathlib.Data.List.Sort
import Mathlib.Data.String.Basic

/-!
# The registry

`prometheus.Registry` as `Metrics.NewServer` uses it.  Every collector of this package
describes exactly one descriptor and none has const labels, so a collector's id (the XOR of
its descriptor ids) is the id of its one descriptor, which is determined by the
fully-qualified name.  The registry keeps

* `collectorsByID` : the registered collectors by id,
* `dimHashesByName` : for every name ever registered, the help string and sorted label
  names, which later registrations of that name must repeat; `Unregister` leaves it as it is.

`Registry.register` follows `Register`: a descriptor whose name is known with other
dimensions is refused, then a collector whose id is taken is refused with
`AlreadyRegisteredError`, else it is added.  `Registry.unregister` follows `Unregister`: it
removes whatever collector holds the id and says whether there was one.  (The set `descIDs`
of the library holds, for such collectors, exactly the ids of `collectorsByID`, so the check
for a duplicate descriptor, which comes after the check for the id, never fires on its own.)
-/

namespace CertManagerMetrics

/-- `prometheus.Desc` without const labels: the fully-qualified name, the help string and the
names of the variable labels. -/
structure Desc where
  /-- The fully-qualified name, from `BuildFQName`. -/
  fqName : String
  /-- The help string. -/
  help : String
  /-- The variable labels, in order. -/
  variableLabels : List String
  deriving DecidableEq, Repr

/-- `BuildFQName(namespace, subsystem, name)`: the non-empty parts joined by `_`, or `""`
when `name` is empty. -/
def buildFQName (ns subsystem name : String) : String :=
  if name = "" then "" else "_".intercalate ([ns, subsystem, name].filter (· ≠ ""))

/-- What the descriptor's `dimHash` hashes: the help string and the sorted label names. -/
def Desc.dimHash (d : Desc) : String × List String :=
  (d.help, d.variableLabels.insertionSort (· ≤ ·))

/-- `prometheus.Registry` for collectors with one descriptor each. -/
structure Registry (C : Type) where
  /-- The registered collectors by id (the fully-qualified name of their descriptor). -/
  collectorsByID : String → Option C
  /-- The dimensions of every name registered so far. -/
  dimHashesByName : String → Option (String × List String)

/-- Why `Register` refuses a collector. -/
inductive RegisterError (C : Type)
  /-- `a previously registered descriptor with the same fully-qualified name as %s has
  different label names or a different help string` -/
  | inconsistentDims (d : Desc)
  /-- `AlreadyRegisteredError{ExistingCollector, NewCollector}` -/
  | alreadyRegistered (existing new : C)
  deriving DecidableEq, Repr

namespace Registry

variable {C : Type}

/-- `NewRegistry()`. -/
def new : Registry C := ⟨fun _ => none, fun _ => none⟩

variable (describe : C → Desc)

/-- The dimensions registered for the name of `d`, if any, are those of `d`. -/
def dimsAgree (r : Registry C) (d : Desc) : Bool :=
  (r.dimHashesByName d.fqName).all fun h => decide (h = d.dimHash)

/-- `r` without the collector of id `id`. -/
def remove (r : Registry C) (id : String) : Registry C :=
  { r with collectorsByID := Function.update r.collectorsByID id none }

/-- `r` with `c` registered under the id of its descriptor `d`. -/
def insert (r : Registry C) (d : Desc) (c : C) : Registry C :=
  ⟨Function.update r.collectorsByID d.fqName (some c),
    Function.update r.dimHashesByName d.fqName (some d.dimHash)⟩

/-- `Register(c)`. -/
def register (r : Registry C) (c : C) : Except (RegisterError C) (Registry C) :=
  let d := describe c
  if r.dimsAgree d then
    match r.collectorsByID d.fqName with
    | some e => .error (.alreadyRegistered e c)
    | none => .ok (r.insert d c)
  else .error (.inconsistentDims d)

/-- `Unregister(c)`: whether a collector held the id of `c`, and the registry without it. -/
def unregister (r : Registry C) (c : C) : Bool × Registry C :=
  match r.collectorsByID (describe c).fqName with
  | none => (false, r)
  | some _ => (true, r.remove (describe c).fqName)

variable {describe}

theorem unregister_of_none {r : Registry C} {c : C}
    (h : r.collectorsByID (describe c).fqName = none) : r.unregister describe c = (false, r) := by
  simp [unregister, h]

theorem unregister_of_some {r : Registry C} {c e : C}
    (h : r.collectorsByID (describe c).fqName = some e) :
    r.unregister describe c = (true, r.remove (describe c).fqName) := by
  simp [unregister, h]

theorem register_of_none {r : Registry C} {c : C} (hd : r.dimsAgree (describe c) = true)
    (h : r.collectorsByID (describe c).fqName = none) :
    r.register describe c = .ok (r.insert (describe c) c) := by
  simp [register, hd, h]

theorem register_of_some {r : Registry C} {c e : C} (hd : r.dimsAgree (describe c) = true)
    (h : r.collectorsByID (describe c).fqName = some e) :
    r.register describe c = .error (.alreadyRegistered e c) := by
  simp [register, hd, h]

/-- `Register` succeeds exactly when the dimensions agree and the id is free, and then adds
the collector. -/
theorem register_eq_ok {r r' : Registry C} {c : C} :
    r.register describe c = .ok r' ↔ r.dimsAgree (describe c) = true ∧
      r.collectorsByID (describe c).fqName = none ∧ r' = r.insert (describe c) c := by
  by_cases hd : r.dimsAgree (describe c) = true
  · cases hc : r.collectorsByID (describe c).fqName <;> simp [register, hd, hc, eq_comm]
  · simp [register, hd]

/-- `Register` refuses a collector for other dimensions under its name, or, failing that, for
a collector already holding its id, which the error names. -/
theorem register_eq_error {r : Registry C} {c : C} {err : RegisterError C}
    (h : r.register describe c = .error err) :
    (r.dimsAgree (describe c) = false ∧ err = .inconsistentDims (describe c)) ∨
      ∃ e, r.dimsAgree (describe c) = true ∧ r.collectorsByID (describe c).fqName = some e ∧
        err = .alreadyRegistered e c := by
  by_cases hd : r.dimsAgree (describe c) = true
  · cases hc : r.collectorsByID (describe c).fqName with
    | none => simp [register, hd, hc] at h
    | some e =>
      simp only [register, hd, hc, if_true, Except.error.injEq] at h
      exact .inr ⟨e, hd, rfl, h.symm⟩
  · rw [Bool.not_eq_true] at hd
    simp only [register, hd, Bool.false_eq_true, if_false, Except.error.injEq] at h
    exact .inl ⟨hd, h.symm⟩

@[simp] theorem remove_collectorsByID (r : Registry C) (id x : String) :
    (r.remove id).collectorsByID x = if x = id then none else r.collectorsByID x := by
  simp [remove, Function.update_apply]

@[simp] theorem remove_dimHashesByName (r : Registry C) (id : String) :
    (r.remove id).dimHashesByName = r.dimHashesByName := rfl

@[simp] theorem insert_collectorsByID (r : Registry C) (d : Desc) (c : C) (x : String) :
    (r.insert d c).collectorsByID x = if x = d.fqName then some c else r.collectorsByID x := by
  simp [insert, Function.update_apply]

@[simp] theorem insert_dimHashesByName (r : Registry C) (d : Desc) (c : C) (x : String) :
    (r.insert d c).dimHashesByName x = if x = d.fqName then some d.dimHash
      else r.dimHashesByName x := by
  simp [insert, Function.update_apply]

end Registry

end CertManagerMetrics
