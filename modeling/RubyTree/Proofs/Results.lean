/-!
Computations that give a value or an error: how one of them ends that is made of others.
-/

namespace RubyTree

variable {ε ε' α β : Type}

theorem ok_bind (value : α) (f : α → Except ε β) : (Except.ok value >>= f) = f value := rfl

theorem bind_eq_ok {x : Except ε α} {f : α → Except ε β} {result : β} :
    (x >>= f) = .ok result ↔ ∃ value, x = .ok value ∧ f value = .ok result := by
  cases x <;> simp [bind, Except.bind]

theorem bind_eq_error {x : Except ε α} {f : α → Except ε β} {error : ε} :
    (x >>= f) = .error error ↔ x = .error error ∨ ∃ value, x = .ok value ∧ f value = .error error := by
  cases x <;> simp [bind, Except.bind]

theorem mapError_eq_ok {x : Except ε α} {f : ε → ε'} {result : α} :
    x.mapError f = .ok result ↔ x = .ok result := by
  cases x with
  | ok value =>
    show Except.ok value = .ok result ↔ _
    simp
  | error fault =>
    show Except.error (f fault) = .ok result ↔ _
    simp

theorem mapError_eq_error {x : Except ε α} {f : ε → ε'} {error : ε'} :
    x.mapError f = .error error ↔ ∃ cause, x = .error cause ∧ f cause = error := by
  cases x with
  | ok value =>
    show Except.ok value = .error error ↔ _
    simp
  | error fault =>
    show Except.error (f fault) = .error error ↔ _
    simp

end RubyTree
