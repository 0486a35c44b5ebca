import Mathlib.Data.List.Lex
import Outlay.Proofs.Text.Bytes

/-!
# The order of texts and of their bytes

Texts are compared by characters. This is the order of their bytes: the first byte of a character
grows with the number of its bytes, and each byte takes the next bits from the top.
-/

namespace Outlay.Bytes

theorem toNat_ofNat_of_lt {n : Nat} (small : n < 256) : (UInt8.ofNat n).toNat = n := by
  rw [UInt8.toNat_ofNat', Nat.mod_eq_of_lt small]

theorem toNat_val_lt (c : Char) : c.val.toNat < 0x110000 := by
  rcases c.valid with low | high
  · exact Nat.lt_trans low (by decide)
  · exact high.2

/-- A smaller character has smaller bytes, whatever comes behind. -/
theorem utf8EncodeChar_append_lt {c d : Char} (less : c < d) (b b' : Bytes) :
    String.utf8EncodeChar c ++ b < String.utf8EncodeChar d ++ b' := by
  have order : c.val.toNat < d.val.toNat := less
  have bound := toNat_val_lt d
  have twice (n : Nat) : n / 4096 = n / 64 / 64 := by rw [Nat.div_div_eq_div_mul]
  have thrice (n : Nat) : n / 262144 = n / 64 / 64 / 64 := by
    rw [Nat.div_div_eq_div_mul, Nat.div_div_eq_div_mul]
  unfold String.utf8EncodeChar
  simp only
  generalize c.val.toNat = m at order
  generalize d.val.toNat = n at order bound
  -- One case for each pair of lengths; the digits to base 64 decide those of equal length.
  repeat' split
  all_goals
    simp (disch := omega) only [List.cons_append, List.nil_append, List.cons_lt_cons_iff,
      UInt8.lt_iff_toNat_lt, ← UInt8.toNat_inj, toNat_ofNat_of_lt, twice, thrice]
    omega

theorem ofChars_lt {s s' : List Char} (less : s < s') : ofChars s < ofChars s' := by
  induction less with
  | nil => exact (List.lex_nil_or_eq_nil _).resolve_right (by simp [ofChars])
  | cons _ ih => exact List.Lex.append_left _ ih _
  | rel less => exact utf8EncodeChar_append_lt less _ _

theorem ofText_lt {s s' : String} (less : s < s') : ofText s < ofText s' := by
  rw [ofText_eq_ofChars, ofText_eq_ofChars]
  exact ofChars_lt less

end Outlay.Bytes
