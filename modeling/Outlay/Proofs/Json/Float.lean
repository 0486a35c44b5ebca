import Outlay.Proofs.Decimal.Float
import Outlay.Proofs.Decimal.Layout
import Outlay.Proofs.Decimal.Shortest
import Outlay.Proofs.Json.Written

/-!
# Written floats

The text of a finite float is a number with a point or a power, and that number rounds to the float.
-/

namespace Outlay.Json

open Decimal Binary64

section

variable {n : ℕ} {place : ℤ} (negative : Bool) {rest : List Char} (ends : EndsNumber rest)

include ends

theorem readUnsigned_isPointed {text whole fraction : List Char} {digits : ℕ} {exponent : ℤ}
    (h : IsPointed text whole fraction digits exponent) :
    readUnsigned negative (text ++ rest) = .ok (.decimal ⟨negative, digits, exponent⟩, rest) := by
  have read := readUnsigned_point negative h.wholeDigits h.wholeNonempty h.leading h.fractionDigits
    h.fractionNonempty ends
  rw [h.text_eq, List.append_assoc, List.cons_append, read, h.ofPlaces_eq]

theorem readUnsigned_powered (power : ℤ) :
    readUnsigned negative (powered (Nat.toDigits 10 n) power ++ rest) =
      .ok (.decimal ⟨negative, n, power - ((Nat.toDigits 10 n).length - 1 : ℕ)⟩, rest) := by
  obtain ⟨c, fraction, digits⟩ := List.exists_cons_of_ne_nil (Nat.toDigits_ne_nil (n := n) (b := 10))
  have all := isDigit_of_mem_toDigits (n := n)
  have value := Nat.ofDigitChars_ten_toDigits (n := n)
  rw [digits] at all value ⊢
  rw [List.forall_mem_cons] at all
  have read := readUnsigned_power negative all.1 all.2 power ends
  change Nat.ofDigitChars 10 ([c] ++ fraction) 0 = n at value
  rw [ofPlaces, value] at read
  simpa [powered, powerText] using read

end

/-! Layouts. -/

/-- The number that a layout writes. -/
def layoutDecimal (layout : Layout) (negative : Bool) (mantissa : ℕ) (exponent : ℤ) : Decimal :=
  let (n, place) := shortest layout.tiesUp mantissa exponent
  if layout.plain ((Nat.toDigits 10 n).length - 1 + place) = true ∧ 0 ≤ place then
    ⟨negative, n * 10 ^ (place.toNat + 1), -1⟩
  else ⟨negative, n, place⟩

section

variable (layout : Layout) (negative : Bool) (m : ℕ) (e : ℤ)

theorem negative_layoutDecimal : (layoutDecimal layout negative m e).negative = negative := by
  unfold layoutDecimal
  simp only
  split <;> rfl

theorem size_layoutDecimal :
    (layoutDecimal layout negative m e).size =
      (shortest layout.tiesUp m e).1 * 10 ^ (shortest layout.tiesUp m e).2 := by
  unfold layoutDecimal Decimal.size
  simp only
  split
  next plain =>
    obtain ⟨places, same⟩ := Int.eq_ofNat_of_zero_le plain.2
    rw [same, Int.toNat_natCast, zpow_natCast, pow_succ]
    push_cast
    rw [zpow_neg_one]
    field_simp
  next => rfl

theorem digits_layoutDecimal_zero : (layoutDecimal layout negative 0 e).digits = 0 := by
  unfold layoutDecimal
  simp only [shortest, if_true]
  split <;> rfl

theorem place_of_shortest (tiesUp : Bool) :
    (shortest tiesUp m e).1 = 0 → (shortest tiesUp m e).2 = 0 := by
  intro none
  rcases Nat.eq_zero_or_pos m with rfl | pos
  · rfl
  · have rounds := (rounds_shortest (e := e) pos tiesUp).pos pos
    rw [none, Nat.cast_zero, zero_mul] at rounds
    exact absurd rounds (lt_irrefl 0)

/-- The text of a float is read as the number that its layout writes. -/
theorem lexemes_finite {rest : List Char} (ends : EndsNumber rest) :
    lexemes (layout.finite negative m e ++ rest) =
      .number (.ok (.decimal (layoutDecimal layout negative m e))) :: lexemes rest := by
  have valid := place_of_shortest m e layout.tiesUp
  unfold Layout.finite layoutDecimal
  generalize shortest layout.tiesUp m e = found at valid ⊢
  obtain ⟨n, place⟩ := found
  have valid : n = 0 → place = 0 := valid
  apply lexemes_signed
  have length := Nat.length_toDigits_pos (b := 10) (n := n)
  by_cases plain : layout.plain ((Nat.toDigits 10 n).length - 1 + place) = true
  · obtain ⟨whole, fraction, written⟩ := exists_isPointed valid
    have read := readUnsigned_isPointed negative ends written
    simp only [plain, if_true, true_and]
    by_cases behind : 0 ≤ place <;> simp only [behind, if_true, if_false] at read ⊢ <;> exact read
  · simp only [plain]
    have read := readUnsigned_powered (n := n) negative ends ((Nat.toDigits 10 n).length - 1 + place)
    have power : ((Nat.toDigits 10 n).length - 1 + place - ((Nat.toDigits 10 n).length - 1 : ℕ) : ℤ) =
        place := by omega
    rw [power] at read
    exact read

end

theorem toFloat_layoutDecimal (layout : Layout) {x : Float} {negative : Bool} {m : ℕ} {e : ℤ}
    (parts : parts x = .finite negative m e) : (layoutDecimal layout negative m e).toFloat = x := by
  have sign := negative_layoutDecimal layout negative m e
  rcases Nat.eq_zero_or_pos m with zero | pos
  · apply toFloat_eq_of_zero parts sign zero
    rw [zero]
    exact digits_layoutDecimal_zero layout negative e
  · apply toFloat_eq_of_rounds parts sign pos
    rw [size_layoutDecimal]
    exact rounds_shortest pos layout.tiesUp

end Outlay.Json
