/-!
# Runs that succeed

A run of several steps succeeds only if each of its steps does.
-/

namespace Reckoner

set_option autoImplicit false

section Steps

variable {Failure Value Result : Type} {outcome : Except Failure Value} {result : Result}

theorem exists_of_bind_eq_ok {next : Value → Except Failure Result}
    (run : outcome >>= next = .ok result) :
    ∃ value, outcome = .ok value ∧ next value = .ok result := by
  cases outcome with
  | error failure => contradiction
  | ok value => exact ⟨value, rfl, run⟩

theorem exists_of_map_eq_ok {change : Value → Result} (run : outcome.map change = .ok result) :
    ∃ value, outcome = .ok value ∧ change value = result := by
  cases outcome with
  | error failure => contradiction
  | ok value => exact ⟨value, rfl, Except.ok.inj run⟩

end Steps

end Reckoner
