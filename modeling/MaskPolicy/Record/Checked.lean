import MaskPolicy.Record.Issue

/-!
# Checked values

A check gives a value or the list of everything that is wrong. Checks of the parts of a payload do
not stop at the first issue: their issues are put one after another.
-/

namespace MaskPolicy

/-- The outcome of a check: a value, or the issues that were found. -/
abbrev Checked (α : Type) := Except (List Issue) α

namespace Checked

variable {α β : Type}

/-- The check that finds one issue at the value itself. -/
def refuse (kind : IssueKind) : Checked α := .error [⟨[], kind⟩]

/-- The issues that were found. -/
def issues : Checked α → List Issue
  | .ok _ => []
  | .error found => found

/-- The check of a part, with its issues placed under a step. -/
def under (step : Step) (c : Checked α) : Checked α := c.mapError (·.map (Issue.under step))

/-- Two checks, one after another; the issues of both are kept. -/
def both : Checked α → Checked β → Checked (α × β)
  | .ok a, .ok b => .ok (a, b)
  | .ok _, .error found => .error found
  | .error found, .ok _ => .error found
  | .error found, .error more => .error (found ++ more)

/-- The checks of a list, one after another. -/
def all : List (Checked α) → Checked (List α)
  | [] => .ok []
  | c :: cs => (both c (all cs)).map fun p => p.1 :: p.2

/-- The issues of two checks are those of the first and then those of the second. -/
theorem issues_both (a : Checked α) (b : Checked β) :
    (both a b).issues = a.issues ++ b.issues := by
  cases a <;> cases b <;> simp [both, issues]

theorem issues_map (f : α → β) (c : Checked α) : issues (c.map f) = c.issues := by
  cases c <;> rfl

/-- Checks that all succeed give the list of their values. -/
theorem all_ok (xs : List α) : all (xs.map fun x => (.ok x : Checked α)) = .ok xs := by
  induction xs with
  | nil => rfl
  | cons x xs ih => rw [List.map_cons, all, ih]; rfl

/-- The issues of a list of checks are those of its items in order. -/
theorem issues_all (cs : List (Checked α)) : (all cs).issues = cs.flatMap issues := by
  induction cs with
  | nil => rfl
  | cons c cs ih => rw [all, issues_map, issues_both, ih, List.flatMap_cons]

end Checked

end MaskPolicy
