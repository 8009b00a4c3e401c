import Mathlib.Logic.Function.Basic
import Mathlib.Algebra.Group.Basic
import Mathlib.Algebra.Group.Int
import Mathlib.Data.List.Basic
import Mathlib.Data.Finset.Basic

/-!
# Metric vectors

A `prometheus.GaugeVec` or `prometheus.CounterVec` is a set of children, one per tuple of
label values, created at zero the first time a tuple is used.  This file models the part of
the client library the package calls:

* `getMetricWithLabelValues` : the positional lookup behind `WithLabelValues(lvs...)`,
* `getMetricWith` : the lookup by label name behind `With(prometheus.Labels{...})`,
* `MetricVec.add` : `Add` on a child (so `Inc`, and `Dec` for gauges), creating it at zero,
* `MetricVec.reset` : `Reset`, which deletes every child.

Both lookups return the tuple in the order of the vector's variable labels, or the error on
which `WithLabelValues` and `With` panic, and that error names the check that failed
(`getMetricWithLabelValues_eq_error`, `getMetricWith_eq_error`); `getMetricWith_eq_ok` says
which tuple `With` finds.  A tuple is a `LabelValues ls`, which carries the
proof that it has one value per label of `ls`, so a vector cannot hold a child of the wrong
arity.  Values are `Nat` for counters and `Int` for gauges: the library stores `float64`,
which is exact on the integers these counters reach.
-/

namespace CertManagerMetrics

/-- A tuple of label values of a vector with variable labels `ls`, in the order of `ls`. -/
structure LabelValues (ls : List String) where
  /-- The label values. -/
  vals : List String
  /-- One value per variable label. -/
  length_eq : vals.length = ls.length
  deriving DecidableEq, Repr

/-- `prometheus.Labels`: label names and their values (the map literals of the package have
distinct keys). -/
def Labels := List (String × String)

/-- The errors on which `WithLabelValues` and `With` panic. -/
inductive LabelError
  /-- `inconsistent label cardinality: expected %d label values but got %d` -/
  | inconsistentCardinality (expected got : Nat)
  /-- `label name %q missing in label map` -/
  | missingLabel (name : String)
  deriving DecidableEq, Repr

/-- `GetMetricWithLabelValues`: the values are taken in the order given, after checking
their number. -/
def getMetricWithLabelValues (ls lvs : List String) : Except LabelError (LabelValues ls) :=
  if h : lvs.length = ls.length then .ok ⟨lvs, h⟩
  else .error (.inconsistentCardinality ls.length lvs.length)

/-- The values of `labels` in the order of the names `ls` (`hashLabels` walks the variable
labels in order and fails at the first one missing from the map). -/
def extractLabelValues (labels : Labels) : List String → Except LabelError (List String)
  | [] => .ok []
  | l :: ls =>
    match labels.lookup l with
    | none => .error (.missingLabel l)
    | some v => (extractLabelValues labels ls).map (v :: ·)

theorem extractLabelValues_length {labels : Labels} :
    ∀ {ls vs : List String}, extractLabelValues labels ls = .ok vs → vs.length = ls.length
  | [], vs, h => by cases h; rfl
  | l :: ls, vs, h => by
    simp only [extractLabelValues] at h
    split at h
    · cases h
    · cases he : extractLabelValues labels ls <;> rw [he] at h <;> cases h
      simp [extractLabelValues_length he]

/-- `GetMetricWith`: the number of labels is checked first, then each variable label is
looked up by name. -/
def getMetricWith (ls : List String) (labels : Labels) : Except LabelError (LabelValues ls) :=
  if labels.length ≠ ls.length then .error (.inconsistentCardinality ls.length labels.length)
  else
    match h : extractLabelValues labels ls with
    | .ok vs => .ok ⟨vs, extractLabelValues_length h⟩
    | .error e => .error e

/-! ### What the lookups return -/

/-- `WithLabelValues` takes the values as given, and fails only on their number, which its
error names. -/
theorem getMetricWithLabelValues_eq_ok {ls lvs : List String} {k : LabelValues ls} :
    getMetricWithLabelValues ls lvs = .ok k ↔ k.vals = lvs := by
  obtain ⟨vals, hk⟩ := k
  unfold getMetricWithLabelValues
  split_ifs with h
  · simp [eq_comm]
  · simp only [reduceCtorEq, false_iff]
    rintro rfl
    exact h hk

theorem getMetricWithLabelValues_eq_error {ls lvs : List String} {e : LabelError} :
    getMetricWithLabelValues ls lvs = .error e ↔
      lvs.length ≠ ls.length ∧ e = .inconsistentCardinality ls.length lvs.length := by
  unfold getMetricWithLabelValues
  split_ifs with h <;> simp [h, eq_comm]

/-- The values found are the map's values at the variable labels, in order. -/
theorem extractLabelValues_eq_ok {labels : Labels} {ls vs : List String} :
    extractLabelValues labels ls = .ok vs ↔ ls.map labels.lookup = vs.map some := by
  induction ls generalizing vs with
  | nil => cases vs <;> simp [extractLabelValues]
  | cons l ls ih =>
    rw [List.map_cons]
    cases hl : labels.lookup l with
    | none => cases vs <;> simp [extractLabelValues, hl]
    | some v =>
      cases vs with
      | nil =>
        cases he : extractLabelValues labels ls <;> simp [extractLabelValues, hl, he, Except.map]
      | cons w ws =>
        rw [List.map_cons, List.cons.injEq, Option.some.injEq, ← ih]
        cases he : extractLabelValues labels ls <;>
          simp [extractLabelValues, hl, he, Except.map, eq_comm]

/-- The lookup by name fails only at a variable label the map lacks, and names it. -/
theorem extractLabelValues_eq_error {labels : Labels} {e : LabelError} :
    ∀ {ls : List String}, extractLabelValues labels ls = .error e →
      ∃ l ∈ ls, e = .missingLabel l ∧ labels.lookup l = none
  | [], h => by cases h
  | l :: ls, h => by
    simp only [extractLabelValues] at h
    split at h
    · cases h
      exact ⟨l, List.mem_cons_self _ _, rfl, ‹_›⟩
    · cases he : extractLabelValues labels ls <;> rw [he] at h <;> cases h
      obtain ⟨l', hl', rfl, hn⟩ := extractLabelValues_eq_error he
      exact ⟨l', List.mem_cons_of_mem _ hl', rfl, hn⟩

/-- **`With` finds a child exactly when the map has one entry per variable label and a value
for each of them**, and the tuple is those values in the order of the variable labels. -/
theorem getMetricWith_eq_ok {ls : List String} {labels : Labels} {k : LabelValues ls} :
    getMetricWith ls labels = .ok k ↔
      labels.length = ls.length ∧ ls.map labels.lookup = k.vals.map some := by
  obtain ⟨vals, hk⟩ := k
  unfold getMetricWith
  split_ifs with hl
  · simp [hl]
  · split <;> rename_i h
    · rw [extractLabelValues_eq_ok] at h
      simp [not_not.1 hl, h, (List.map_injective_iff.2 (Option.some_injective _)).eq_iff]
    · refine ⟨nofun, fun ⟨_, hm⟩ => ?_⟩
      rw [← extractLabelValues_eq_ok, h] at hm
      cases hm

/-- **The error of `With` names the check that failed**: the size of the map, checked first,
or the first variable label the map lacks. -/
theorem getMetricWith_eq_error {ls : List String} {labels : Labels} {e : LabelError}
    (h : getMetricWith ls labels = .error e) :
    (labels.length ≠ ls.length ∧ e = .inconsistentCardinality ls.length labels.length) ∨
      (labels.length = ls.length ∧ ∃ l ∈ ls, e = .missingLabel l ∧ labels.lookup l = none) := by
  unfold getMetricWith at h
  split_ifs at h with hl
  · cases h
    exact .inl ⟨hl, rfl⟩
  · split at h
    · cases h
    · cases h
      exact .inr ⟨not_not.1 hl, extractLabelValues_eq_error ‹_›⟩

/-- The children of a vector with variable labels `ls`; `none` for a tuple without a
child.  The library keeps them in a finite map, so the tuples that have a child form a finite
set. -/
structure MetricVec (ls : List String) (α : Type) where
  /-- The value of the child of each tuple, if it exists. -/
  children : LabelValues ls → Option α
  /-- The tuples that have a child. -/
  support : Finset (LabelValues ls)
  mem_support : ∀ k, k ∈ support ↔ (children k).isSome

namespace MetricVec

variable {ls : List String} {α : Type}

/-- A vector is its children: the set of tuples that have one is determined by them. -/
@[ext]
theorem ext {v w : MetricVec ls α} (h : v.children = w.children) : v = w := by
  obtain ⟨c, s, hs⟩ := v
  obtain ⟨c', s', hs'⟩ := w
  obtain rfl : c = c' := h
  obtain rfl : s = s' := Finset.ext fun k => (hs k).trans (hs' k).symm
  rfl

/-- A vector without children, as the library's constructors return it. -/
def empty : MetricVec ls α := ⟨fun _ => none, ∅, by simp⟩

/-- `Reset`: deletes every child. -/
def reset (_ : MetricVec ls α) : MetricVec ls α := empty

@[simp] theorem empty_children (k : LabelValues ls) : (empty : MetricVec ls α).children k = none :=
  rfl

@[simp] theorem reset_eq (v : MetricVec ls α) : v.reset = empty := rfl

/-- The vector has a child, so that `Collect` yields a metric for it. -/
def hasChildren (v : MetricVec ls α) : Bool := decide v.support.Nonempty

theorem hasChildren_iff (v : MetricVec ls α) :
    v.hasChildren = true ↔ ∃ k, (v.children k).isSome := by
  simp [hasChildren, Finset.Nonempty, v.mem_support]

@[simp] theorem hasChildren_empty : (empty : MetricVec ls α).hasChildren = false := rfl

/-- The samples of the vector by label values, as the exposition reports them. -/
def samples (v : MetricVec ls α) (f : α → Int) (lvs : List String) : Option Int :=
  if h : lvs.length = ls.length then (v.children ⟨lvs, h⟩).map f else none

/-- The exposition reports at a tuple the child of that tuple. -/
@[simp] theorem samples_vals (v : MetricVec ls α) (f : α → Int) (k : LabelValues ls) :
    v.samples f k.vals = (v.children k).map f := by
  simp [samples, k.length_eq]

/-- A vector has a child exactly when the exposition reports a sample for it. -/
theorem hasChildren_iff_samples (v : MetricVec ls α) (f : α → Int) :
    v.hasChildren = true ↔ ∃ lvs, (v.samples f lvs).isSome := by
  rw [hasChildren_iff]
  refine ⟨fun ⟨k, hk⟩ => ⟨k.vals, by simpa using hk⟩, fun ⟨lvs, h⟩ => ?_⟩
  by_cases hl : lvs.length = ls.length
  · exact ⟨⟨lvs, hl⟩, by simpa [samples, hl] using h⟩
  · simp [samples, hl] at h

variable [AddCommMonoid α]

/-- `Add(d)` on the child of `k`, which is created at zero if it does not exist. -/
def add (v : MetricVec ls α) (k : LabelValues ls) (d : α) : MetricVec ls α where
  children := Function.update v.children k (some ((v.children k).getD 0 + d))
  support := insert k v.support
  mem_support t := by
    by_cases h : t = k
    · subst h; simp
    · simp [h, Function.update_noteq, v.mem_support]

/-- `Inc` of a counter: `Add(1)`. -/
def inc (v : MetricVec ls Nat) (k : LabelValues ls) : MetricVec ls Nat := v.add k 1

/-- `Dec` of a gauge: `Add(-1)`. -/
def dec (v : MetricVec ls Int) (k : LabelValues ls) : MetricVec ls Int := v.add k (-1)

/-- The value exposed for a tuple, `0` when it has no child. -/
def value (v : MetricVec ls α) (k : LabelValues ls) : α := (v.children k).getD 0

@[simp] theorem add_children_self (v : MetricVec ls α) (k : LabelValues ls) (d : α) :
    (v.add k d).children k = some (v.value k + d) := by
  simp [add, value]

theorem add_children_of_ne (v : MetricVec ls α) {k t : LabelValues ls} (d : α) (h : t ≠ k) :
    (v.add k d).children t = v.children t := by
  simp [add, Function.update_noteq h]

theorem add_children (v : MetricVec ls α) (k t : LabelValues ls) (d : α) :
    (v.add k d).children t = if t = k then some (v.value k + d) else v.children t := by
  split_ifs with h
  · subst h; exact add_children_self v t d
  · exact add_children_of_ne v d h

@[simp] theorem value_add (v : MetricVec ls α) (k t : LabelValues ls) (d : α) :
    (v.add k d).value t = v.value t + if t = k then d else 0 := by
  simp only [value, add_children]
  split_ifs with h <;> simp [h]

@[simp] theorem value_empty (k : LabelValues ls) : (empty : MetricVec ls α).value k = 0 := rfl

/-- `getOrCreateMetricWithLabels`, which `With` calls once it has checked the labels: the
vector with a child at `k`, created at zero if it does not exist, which is `Add(0)`. -/
def getOrCreateMetricWithLabels (v : MetricVec ls α) (k : LabelValues ls) : MetricVec ls α :=
  v.add k 0

/-- `WithLabelValues(lvs...).Add(d)`, failing where `WithLabelValues` panics. -/
def addWithLabelValues (v : MetricVec ls α) (lvs : List String) (d : α) :
    Except LabelError (MetricVec ls α) :=
  (getMetricWithLabelValues ls lvs).map (v.add · d)

/-- `With(labels).Add(d)`, failing where `With` panics. -/
def addWith (v : MetricVec ls α) (labels : Labels) (d : α) : Except LabelError (MetricVec ls α) :=
  (getMetricWith ls labels).map (v.add · d)

theorem addWithLabelValues_of_length (v : MetricVec ls α) {lvs : List String} (d : α)
    (h : lvs.length = ls.length) : v.addWithLabelValues lvs d = .ok (v.add ⟨lvs, h⟩ d) := by
  simp [addWithLabelValues, getMetricWithLabelValues, h, Except.map]

theorem addWith_of_getMetricWith (v : MetricVec ls α) {labels : Labels} {k : LabelValues ls}
    (d : α) (h : getMetricWith ls labels = .ok k) : v.addWith labels d = .ok (v.add k d) := by
  simp [addWith, h, Except.map]

end MetricVec

end CertManagerMetrics
