/-! How the resolution of a token ended. -/
namespace DesignTokens

inductive Status where
  | resolved
  | missing
  | cyclic
deriving DecidableEq

namespace Status

def name : Status → String
  | resolved => "resolved"
  | missing => "missing"
  | cyclic => "cyclic"

/-- In the order in which reports count them. -/
def all : List Status := [resolved, cyclic, missing]

def ofName? (name : String) : Option Status := all.find? (·.name = name)

def severity : Status → Nat
  | resolved => 0
  | missing => 1
  | cyclic => 2

def worse (s t : Status) : Status := if s.severity < t.severity then t else s

def worst (statuses : List Status) : Status := statuses.foldl worse resolved

@[simp] theorem ofName?_name (s : Status) : ofName? s.name = some s := by
  cases s <;> decide

theorem severity_worse (s t : Status) : (s.worse t).severity = max s.severity t.severity := by
  cases s <;> cases t <;> decide

theorem worse_eq_resolved_iff {s t : Status} :
    s.worse t = resolved ↔ s = resolved ∧ t = resolved := by
  cases s <;> cases t <;> decide

theorem worse_eq_cyclic_iff {s t : Status} : s.worse t = cyclic ↔ s = cyclic ∨ t = cyclic := by
  cases s <;> cases t <;> decide

theorem foldl_worse_eq_resolved_iff {s : Status} {statuses : List Status} :
    statuses.foldl worse s = resolved ↔ s = resolved ∧ ∀ t ∈ statuses, t = resolved := by
  induction statuses generalizing s with
  | nil => simp
  | cons t rest ih =>
    rw [List.foldl_cons, ih, worse_eq_resolved_iff, List.forall_mem_cons, and_assoc]

theorem foldl_worse_eq_cyclic_iff {s : Status} {statuses : List Status} :
    statuses.foldl worse s = cyclic ↔ s = cyclic ∨ cyclic ∈ statuses := by
  induction statuses generalizing s with
  | nil => simp
  | cons t rest ih =>
    rw [List.foldl_cons, ih, worse_eq_cyclic_iff, List.mem_cons, or_assoc, eq_comm (a := t)]

theorem worst_eq_resolved_iff {statuses : List Status} :
    worst statuses = resolved ↔ ∀ t ∈ statuses, t = resolved := by
  rw [worst, foldl_worse_eq_resolved_iff]
  exact and_iff_right rfl

theorem worst_eq_cyclic_iff {statuses : List Status} :
    worst statuses = cyclic ↔ cyclic ∈ statuses := by
  rw [worst, foldl_worse_eq_cyclic_iff]
  exact or_iff_right (by decide)

/-- A status is known from whether it is a success and whether it is a cycle. -/
theorem eq_of_iff {s t : Status} (resolves : s = resolved ↔ t = resolved)
    (loops : s = cyclic ↔ t = cyclic) : s = t := by
  cases s <;> cases t <;> simp_all

end Status

end DesignTokens
