/-!
# Results that may be failures

What it means that a chain of results, each of which may be a failure, ends well: every link of it
does.  Whether two results are the same can be decided.
-/

set_option autoImplicit false

namespace Receipt.Result

variable {ε α β : Type}

instance decidableEq [DecidableEq ε] [DecidableEq α] : DecidableEq (Except ε α)
  | .ok a, .ok b => decidable_of_iff (a = b) (by simp)
  | .error a, .error b => decidable_of_iff (a = b) (by simp)
  | .ok _, .error _ => isFalse (by simp)
  | .error _, .ok _ => isFalse (by simp)

/-- A result is a failure exactly when it is no value. -/
theorem exists_eq_error_iff {result : Except ε α} :
    (∃ failure, result = .error failure) ↔ ¬ ∃ value, result = .ok value := by
  cases result <;> simp

/-- A chain ends well exactly when both of its links do. -/
theorem bind_eq_ok {first : Except ε α} {next : α → Except ε β} {result : β} :
    first >>= next = .ok result ↔ ∃ value, first = .ok value ∧ next value = .ok result := by
  cases first <;> simp [bind, Except.bind]

/-- A chain fails exactly when one of its links does, behind links that end well. -/
theorem bind_eq_error {first : Except ε α} {next : α → Except ε β} {failure : ε} :
    first >>= next = .error failure ↔
      first = .error failure ∨ ∃ value, first = .ok value ∧ next value = .error failure := by
  cases first <;> simp [bind, Except.bind]

/-- A changed result is one exactly when the result was. -/
theorem map_eq_ok {first : Except ε α} {change : α → β} {result : β} :
    change <$> first = .ok result ↔ ∃ value, first = .ok value ∧ change value = result := by
  cases first <;> simp [Functor.map, Except.map]

/-- A change does not keep a failure from showing, and makes none. -/
theorem map_eq_error {first : Except ε α} {change : α → β} {failure : ε} :
    change <$> first = .error failure ↔ first = .error failure := by
  cases first <;> simp [Functor.map, Except.map]

end Receipt.Result
