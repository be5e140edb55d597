import BucketAccess.Violation

/-!
# Problems of a payload

Decoding a payload reports everything that is wrong with it, each problem with
the place where it lies.
-/

namespace BucketAccess

/-- One step into a payload. -/
inductive Step where
  | key (name : String)
  | index (position : Nat)
deriving DecidableEq, Repr

/-- What can be wrong with a value. -/
inductive Flaw where
  | notObject
  | missing
  | notText
  | notList
  | unknownCapability
  /-- A text that stands for another value is broken. -/
  | brokenText
  | notInteger
  /-- A text that is no integer numeral. -/
  | integerText
  /-- An integer too large for the form it is given in. -/
  | integerSize
  | integerInfinite
  | integerFraction
  | notMoment
  /-- A moment outside years 1 to 9999. -/
  | momentRange
  /-- A text that has no form of a moment. -/
  | momentText
  /-- The value breaks a rule of its own type. -/
  | broken (violation : Violation)
  /-- The value breaks a rule, and what would be said of it cannot show it. -/
  | unshown (why : Json.Unshown)
deriving Repr

/-- A flaw and where it lies, from the outermost step inwards. -/
structure Problem where
  flaw : Flaw
  place : List Step
deriving Repr

/-- A value that is nested too deeply to be shown. -/
def Problem.isTooDeep (problem : Problem) : Bool :=
  match problem.flaw with
  | .unshown .deepNesting => true
  | _ => false

/-- The same problem seen one step further out. -/
def Problem.within (step : Step) (problem : Problem) : Problem :=
  { problem with place := step :: problem.place }

end BucketAccess
