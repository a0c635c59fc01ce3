import Mathlib.Tactic

/-!
# Sequenced fallible steps

Inversion of `do` blocks over `Except`: a sequence succeeds exactly when its
first step does and the rest succeeds on the value it produced.  A failed
`commit` leaves the state as it was.
-/

set_option autoImplicit false

namespace VividProtocol.Library.Result

universe u

variable {ε α β : Type u}

theorem bind_eq_ok_iff {first : Except ε α} {rest : α → Except ε β} {value : β} :
    (first >>= rest) = .ok value ↔
      ∃ middle, first = .ok middle ∧ rest middle = .ok value := by
  cases first with
  | error reason => simp [Bind.bind, Except.bind]
  | ok middle => simp [Bind.bind, Except.bind]

/-- A check passes before the rest is done. -/
theorem check_bind_eq_ok_iff {check : Except ε PUnit} {rest : PUnit → Except ε β} {value : β} :
    (check >>= rest) = .ok value ↔ check = .ok ⟨⟩ ∧ rest ⟨⟩ = .ok value := by
  cases check with
  | error reason => simp [Bind.bind, Except.bind]
  | ok passed => simp [Bind.bind, Except.bind]

@[simp] theorem ok_bind (middle : α) (rest : α → Except ε β) :
    ((.ok middle : Except ε α) >>= rest) = rest middle := rfl

@[simp] theorem error_bind (reason : ε) (rest : α → Except ε β) :
    ((.error reason : Except ε α) >>= rest) = .error reason := rfl

/-- A guard that either fails or lets a fixed value through. -/
theorem ite_error_eq_ok_iff {refused : Prop} [Decidable refused] {reason : ε}
    {rest : Except ε α} {value : α} :
    (if refused then .error reason else rest) = .ok value ↔
      ¬ refused ∧ rest = .ok value := by
  by_cases holds : refused <;> simp [holds]

/-- An operation that writes the state only once nothing can fail any more. -/
def commit {σ : Type u} (state : σ) : Except ε (α × σ) → Except ε α × σ
  | .error reason => (.error reason, state)
  | .ok (value, next) => (.ok value, next)

theorem commit_cases {σ : Type u} (state : σ) (result : Except ε (α × σ)) :
    (∃ reason, result = .error reason ∧ commit state result = (.error reason, state)) ∨
      ∃ value next, result = .ok (value, next) ∧
        commit state result = (.ok value, next) := by
  cases result with
  | error reason => exact Or.inl ⟨reason, rfl, rfl⟩
  | ok answer => exact Or.inr ⟨answer.1, answer.2, rfl, rfl⟩

end VividProtocol.Library.Result
