import Outlay.Proofs.Binary64.Product

/-!
# Rising operations

Correct rounding keeps the order (`IsRounding.mono`), so what rounds a rising function of the exact
numbers rises too. Scaling by a float above zero is of this kind, and so is rounding to whole numbers;
they keep out of minus as well, so they may follow each other (`Rises.comp`).
-/

namespace Outlay.Binary64

open Float.Model UnpackedFloat

theorem pack_infinity : (⟨.pack (.infinity .positive)⟩ : Float) = 1.0 / 0.0 := by
  rw [← unpack_infinity]
  exact pack_unpack_toModel _

/-- A number whose sign bit is not set, infinity among them. -/
structure IsPlus (x : Float) : Prop where
  sign : ¬HasMinus x
  number : x.isNaN = false

instance (x : Float) : Decidable (IsPlus x) := decidable_of_iff (¬HasMinus x ∧ x.isNaN = false)
  ⟨fun h => ⟨h.1, h.2⟩, fun h => ⟨h.sign, h.number⟩⟩

theorem isPlus_infinity : IsPlus (1.0 / 0.0) := by decide +kernel

namespace IsPlus

variable {x y : Float}

theorem zero_le (h : IsPlus x) : 0.0 ≤ x := zero_le_of_not_hasMinus h.sign h.number

theorem add (hx : IsPlus x) (hy : 0.0 ≤ y) : IsPlus (x + y) :=
  ⟨not_hasMinus_add_of_zero_le hx.sign hy, (isNaN_eq_false_of_le (zero_le_add hx.zero_le hy)).2⟩

theorem foldl_add {xs : List Float} (h : ∀ x ∈ xs, 0.0 ≤ x) {sum : Float} (start : IsPlus sum) :
    IsPlus (xs.foldl (· + ·) sum) := by
  induction xs generalizing sum with
  | nil => exact start
  | cons x xs ih =>
    rw [List.forall_mem_cons] at h
    exact ih h.2 (start.add h.1)

theorem isFinite_or_eq_infinity (h : IsPlus x) : x.isFinite = true ∨ x = 1.0 / 0.0 := by
  cases eq : parts x with
  | nan => exact absurd eq (isNaN_eq_false_iff.1 h.number)
  | finite negative m e => exact .inl (isFinite_eq_true_of_parts eq)
  | infinite negative =>
    right
    have plus : ¬negative = true := fun minus => h.sign ((hasMinus_iff (negative_of_infinite eq)).1 minus)
    apply eq_of_unpack_eq
    rw [unpack_infinity, unpack_eq_parts, eq, Bool.eq_false_of_not_eq_true plus]
    rfl

theorem le_infinity (h : IsPlus x) : x ≤ 1.0 / 0.0 := by
  rw [← not_lt_iff_le isPlus_infinity.number h.number]
  rcases h.isFinite_or_eq_infinity with finite | rfl
  · intro less
    have beyond := lt_infinity_of_isFinite finite
    rw [lt_iff_number_lt h.number isPlus_infinity.number] at beyond
    rw [lt_iff_number_lt isPlus_infinity.number h.number] at less
    exact lt_asymm beyond less
  · decide +kernel

end IsPlus

theorem le_iff_value_le {x y : Float} (hx : x.isFinite = true) (hy : y.isFinite = true) :
    x ≤ y ↔ (parts x).value ≤ (parts y).value := by
  obtain ⟨s, m, e, xParts⟩ := exists_parts_of_isFinite hx
  obtain ⟨t, n, f, yParts⟩ := exists_parts_of_isFinite hy
  rw [le_iff_number_le (isNaN_eq_false_of_isFinite hx) (isNaN_eq_false_of_isFinite hy), xParts, yParts]
  exact WithBot.coe_le_coe.trans WithTop.coe_le_coe

protected theorem le_of_lt {x y : Float} (h : x < y) : x ≤ y := le_iff_compare.2 ⟨.lt, lt_iff_compare.1 h, rfl⟩

protected theorem lt_of_lt_of_le {x y z : Float} (less : x < y) (le : y ≤ z) : x < z := by
  have hx := (isNaN_eq_false_of_le (Binary64.le_of_lt less)).1
  obtain ⟨hy, hz⟩ := isNaN_eq_false_of_le le
  rw [lt_iff_number_lt hx hz]
  exact ((lt_iff_number_lt hx hy).1 less).trans_le ((le_iff_number_le hy hz).1 le)

/-! Rounding keeps the order. -/

section

variable {a b q : ℚ} (less : a < b)

include less

/-- What is no farther from the larger of two numbers lies on its side of their middle. -/
theorem add_le_two_mul_of_abs_sub_le (nearer : |q - b| ≤ |q - a|) : a + b ≤ 2 * q := by
  have squares := sq_le_sq.2 nearer
  nlinarith

theorem two_mul_le_add_of_abs_sub_le (nearer : |q - a| ≤ |q - b|) : 2 * q ≤ a + b := by
  have squares := sq_le_sq.2 nearer
  nlinarith

end

namespace IsRounding

variable {p q : ℚ} {x y : Float}

theorem isPlus (h : IsRounding q x) : IsPlus x := by
  refine ⟨not_le.2 h.unsigned, ?_⟩
  rcases lt_or_ge q overflow with small | large
  · exact isNaN_eq_false_of_isFinite (h.finite small)
  · rw [h.infinite large]
    exact isPlus_infinity.number

theorem mono (hx : IsRounding p x) (hy : IsRounding q y) (le : p ≤ q) : x ≤ y := by
  rcases lt_or_ge q overflow with small | large
  · have xFinite := hx.finite (le.trans_lt small)
    have yFinite := hy.finite small
    rw [le_iff_value_le xFinite yFinite]
    rcases le.lt_or_eq with less | rfl
    · -- Otherwise the middle of the two floats lies between the numbers, but the wrong way round.
      by_contra beyond
      have low := add_le_two_mul_of_abs_sub_le (not_le.1 beyond) (hx.nearest xFinite y yFinite)
      have high := two_mul_le_add_of_abs_sub_le (not_le.1 beyond) (hy.nearest yFinite x xFinite)
      linarith
    · rw [hx.unique hy]
  · rw [hy.infinite large]
    exact hx.isPlus.le_infinity

end IsRounding

/-! Operations. -/

/-- An operation that keeps the order of numbers without a minus, and keeps them so. -/
structure Rises (f : Float → Float) : Prop where
  isPlus {x : Float} : IsPlus x → IsPlus (f x)
  mono {x y : Float} : IsPlus x → IsPlus y → x ≤ y → f x ≤ f y

theorem Rises.comp {f g : Float → Float} (hg : Rises g) (hf : Rises f) : Rises fun x => g (f x) where
  isPlus h := hg.isPlus (hf.isPlus h)
  mono hx hy le := hg.mono (hf.isPlus hx) (hf.isPlus hy) (hf.mono hx hy le)

/-- What rounds a rising function rises. -/
theorem rises_of_isRounding {f : Float → Float} {g : ℚ → ℚ} (mono : Monotone g)
    (rounding : ∀ x : Float, x.isFinite = true → ¬HasMinus x → IsRounding (g (parts x).value) (f x))
    (infinite : f (1.0 / 0.0) = 1.0 / 0.0) : Rises f := by
  have isPlus {x : Float} (h : IsPlus x) : IsPlus (f x) := by
    rcases h.isFinite_or_eq_infinity with finite | rfl
    · exact (rounding x finite h.sign).isPlus
    · rw [infinite]
      exact isPlus_infinity
  refine ⟨isPlus, fun {x y} hx hy le => ?_⟩
  rcases hy.isFinite_or_eq_infinity with yFinite | rfl
  · rcases hx.isFinite_or_eq_infinity with xFinite | rfl
    · exact (rounding x xFinite hx.sign).mono (rounding y yFinite hy.sign)
        (mono ((le_iff_value_le xFinite yFinite).1 le))
    · exact absurd (lt_infinity_of_isFinite yFinite) ((not_lt_iff_le hy.number hx.number).2 le)
  · rw [infinite]
    exact (isPlus hx).le_infinity

section

variable {b : Float} (finite : b.isFinite = true) (pos : 0.0 < b)

include finite pos

theorem rises_mul : Rises (· * b) := by
  refine rises_of_isRounding (g := fun q => q * (parts b).value)
    (fun p q le => mul_le_mul_of_nonneg_right le (value_pos_of_pos finite pos).le)
    (fun x xFinite xPlus => isRounding_mul xFinite finite xPlus (not_hasMinus_of_pos finite pos)) ?_
  obtain ⟨k, g, hk, factor⟩ := exists_unpack_of_pos pos finite
  change (⟨.pack (UnpackedFloat.mul .binary64 (1.0 / 0.0 : Float).toModel.unpack b.toModel.unpack)⟩ : Float) = _
  rw [unpack_infinity, factor]
  exact pack_infinity

theorem rises_div : Rises (· / b) := by
  refine rises_of_isRounding (g := fun q => q / (parts b).value)
    (fun p q le => div_le_div_of_nonneg_right le (value_pos_of_pos finite pos).le)
    (fun x xFinite xPlus => isRounding_div xFinite finite xPlus pos) ?_
  obtain ⟨k, g, hk, divisor⟩ := exists_unpack_of_pos pos finite
  change (⟨.pack (UnpackedFloat.div .binary64 (1.0 / 0.0 : Float).toModel.unpack b.toModel.unpack)⟩ : Float) = _
  rw [unpack_infinity, divisor]
  exact pack_infinity

end

/-- A half goes up, as it does away from zero. -/
theorem isRounding_roundHalfAway {x : Float} (finite : x.isFinite = true) (plus : ¬HasMinus x) :
    IsRounding (⌊(parts x).value + 1 / 2⌋₊ : ℕ) (roundHalfAway x) := by
  obtain ⟨m, e, eq⟩ := exists_parts_of_plus finite plus
  have self := isRounding_self finite plus
  unfold roundHalfAway
  rw [eq] at self ⊢
  simp only
  split
  next whole =>
    obtain ⟨k, rfl⟩ := Int.eq_ofNat_of_zero_le whole
    have exact : (Parts.finite false m k).value = (m * 2 ^ k : ℕ) := by
      change (m * 2 ^ (k : ℤ) : ℚ) = _
      rw [zpow_natCast]
      push_cast
      rfl
    have floor : ⌊((m * 2 ^ k : ℕ) : ℚ) + 1 / 2⌋₊ = m * 2 ^ k := by
      rw [add_comm, Nat.floor_add_natCast (by norm_num)]
      norm_num
    rw [exact] at self ⊢
    rwa [floor]
  next fraction =>
    have unit_pos : (0 : ℚ) < (Nat.pow 2 (-e).toNat : ℕ) := Nat.cast_pos.2 (pow_toNat_pos _)
    have floor : ⌊(Parts.finite false m e).value + 1 / 2⌋₊ =
        (2 * m + Nat.pow 2 (-e).toNat) / (2 * Nat.pow 2 (-e).toNat) := by
      have power : (2 : ℚ) ^ e = 1 / (Nat.pow 2 (-e).toNat : ℕ) := by
        have quotient := pow_toNat_div_pow_toNat 2 e
        rw [Int.toNat_of_nonpos (not_le.1 fraction).le] at quotient
        exact_mod_cast quotient.symm
      rw [← Rat.natFloor_natCast_div_natCast]
      congr 1
      change (m * 2 ^ e + 1 / 2 : ℚ) = _
      rw [power]
      push_cast
      field_simp
    have rounding (k : ℕ) : IsRounding ((k : ℚ) / (1 : ℕ)) (nearest false k 1) := isRounding_nearest one_pos
    rw [floor, ← div_one (Nat.cast _), ← Nat.cast_one]
    exact rounding _

theorem rises_roundHalfAway : Rises roundHalfAway := by
  refine rises_of_isRounding (g := fun q => (⌊q + 1 / 2⌋₊ : ℕ)) (fun p q le => ?_)
    (fun x finite plus => isRounding_roundHalfAway finite plus) (by decide +kernel)
  exact Nat.cast_le.2 (Nat.floor_mono (add_le_add_left le _))

end Outlay.Binary64
