/-!
# What went well
-/

namespace Outlay

variable {ε α β : Type} {x : Except ε α}

theorem bind_eq_ok_iff {f : α → Except ε β} {b : β} :
    (x >>= f) = .ok b ↔ ∃ a, x = .ok a ∧ f a = .ok b := by
  cases x <;> simp [bind, Except.bind]

theorem bind_eq_error_iff {f : α → Except ε β} {e : ε} :
    (x >>= f) = .error e ↔ x = .error e ∨ ∃ a, x = .ok a ∧ f a = .error e := by
  cases x <;> simp [bind, Except.bind]

theorem map_eq_ok_iff {f : α → β} {b : β} : x.map f = .ok b ↔ ∃ a, x = .ok a ∧ f a = b := by
  cases x <;> simp [Except.map]

theorem eq_ok_of_toOption {a : α} (h : x.toOption = some a) : x = .ok a := by
  cases x with
  | error => cases h
  | ok b => exact congrArg Except.ok (Option.some.inj h)

/-- Steps that may be taken in either order may be taken in any order. -/
theorem foldlM_eq_ok_of_perm {step : α → β → Except ε α}
    (comm : ∀ a a₁ a₂ b b', step a b = .ok a₁ → step a₁ b' = .ok a₂ →
      ∃ a', step a b' = .ok a' ∧ step a' b = .ok a₂)
    {l l' : List β} (perm : l.Perm l') {a a' : α} (taken : l.foldlM step a = .ok a') :
    l'.foldlM step a = .ok a' := by
  induction perm generalizing a a' with
  | nil => exact taken
  | cons b perm ih =>
    rw [List.foldlM_cons, bind_eq_ok_iff] at taken ⊢
    obtain ⟨a₁, first, rest⟩ := taken
    exact ⟨a₁, first, ih rest⟩
  | swap b b' l =>
    simp only [List.foldlM_cons, bind_eq_ok_iff] at taken ⊢
    obtain ⟨a₁, first, a₂, second, rest⟩ := taken
    obtain ⟨a₃, second, first⟩ := comm _ _ _ _ _ first second
    exact ⟨a₃, second, a₂, first, rest⟩
  | trans perm perm' ih ih' => exact ih' (ih taken)

end Outlay
