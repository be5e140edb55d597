import BucketAccess.Problem

/-!
# Checked values

The result of decoding a value: the decoded value, or all the problems found.
Putting two results together collects the problems of both, so that a record
reports every field that is wrong, in the order of its fields.
-/

namespace BucketAccess

/-- A decoded value, or what is wrong with the value it should come from. -/
inductive Checked (α : Type) where
  | sound (value : α)
  | flawed (problems : List Problem)
deriving Repr

namespace Checked

variable {α β : Type}

/-- A single problem with the value itself. -/
def flaw (flaw : Flaw) : Checked α := .flawed [⟨flaw, []⟩]

/-- Changes the decoded value. -/
def map (change : α → β) : Checked α → Checked β
  | .sound value => .sound (change value)
  | .flawed problems => .flawed problems

/-- Applies a checked function to a checked value. -/
def apply : Checked (α → β) → Checked α → Checked β
  | .sound change, .sound value => .sound (change value)
  | .sound _, .flawed problems => .flawed problems
  | .flawed problems, .sound _ => .flawed problems
  | .flawed left, .flawed right => .flawed (left ++ right)

instance : Functor Checked where
  map := map

instance : Applicative Checked where
  pure := sound
  seq change value := apply change (value ())

/-- The same result seen one step further out. -/
def within (step : Step) : Checked α → Checked α
  | .sound value => .sound value
  | .flawed problems => .flawed (problems.map (Problem.within step))

/-- Some value in it is nested too deeply to be shown. -/
def isTooDeep : Checked α → Bool
  | .sound _ => false
  | .flawed problems => problems.any Problem.isTooDeep

/-- The decoded value, if there is one. -/
def toOption : Checked α → Option α
  | .sound value => some value
  | .flawed _ => none

end Checked

end BucketAccess
