import BucketAccess.Fault

/-!
# Outcomes

Steps that are carried out one after the other succeed when each of them does,
and fail as the first one that fails.  A step that looks only at its own value
fails by naming the rule that the value breaks.
-/

namespace BucketAccess

section Steps

variable {ε α β : Type} {first : Except ε α} {next : α → Except ε β}

theorem bind_eq_ok_iff {value : β} :
    (first >>= next) = .ok value ↔ ∃ middle, first = .ok middle ∧ next middle = .ok value := by
  cases first <;> simp [bind, Except.bind]

theorem bind_eq_error_iff {fault : ε} :
    (first >>= next) = .error fault ↔
      first = .error fault ∨ ∃ middle, first = .ok middle ∧ next middle = .error fault := by
  cases first <;> simp [bind, Except.bind]

theorem map_eq_ok_iff {change : α → β} {value : β} :
    first.map change = .ok value ↔ ∃ middle, first = .ok middle ∧ change middle = value := by
  cases first <;> simp [Except.map]

theorem exists_map_eq_ok_iff {change : α → β} :
    (∃ value, first.map change = .ok value) ↔ ∃ middle, first = .ok middle := by
  cases first <;> simp [Except.map]

theorem map_eq_error_iff {change : α → β} {fault : ε} :
    first.map change = .error fault ↔ first = .error fault := by
  cases first <;> simp [Except.map]

end Steps

/-- The fault of a request that breaks rules. -/
def Fault.IsViolation (fault : Fault) : Prop := ∃ violations, fault = .invalidRequest violations

theorem Fault.isViolation_of_eq {violation : Violation} {fault : Fault}
    (herror : Fault.violation violation = fault) : fault.IsViolation := ⟨[violation], herror.symm⟩

end BucketAccess
