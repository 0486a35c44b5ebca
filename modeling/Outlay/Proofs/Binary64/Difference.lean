import Outlay.Proofs.Binary64.Value

/-!
# Differences of floats

Finite floats are multiples of the least one, so their difference does not round to zero unless they
are equal. It lies on the side of zero that their order says (`compare_sub`), and the other way round
it has the other sign (`sub_beq_neg_sub`).
-/

namespace Outlay.Binary64

open Float.Model UnpackedFloat

/-! Rounding what is not zero. -/

theorem mantissa_shiftRight (em : ExtendedMantissa) (k : ℕ) :
    (em >>> k).mantissa = em.mantissa / 2 ^ k := by
  induction k with
  | zero => exact (Nat.div_one _).symm
  | succ k ih =>
    change (em >>> k).mantissa / 2 = _
    rw [ih, Nat.div_div_eq_div_mul, Nat.pow_succ]

theorem mantissa_ofMantissaAndAccuracy (m : ℕ) (accuracy : Accuracy) :
    (ExtendedMantissa.ofMantissaAndAccuracy m accuracy).mantissa = m := by
  cases accuracy with
  | exact => rfl
  | inexact order => cases order <;> rfl

theorem le_roundedMantissa (em : ExtendedMantissa) : em.mantissa ≤ em.roundedMantissa := by
  obtain ⟨m, roundBit, stickyBit⟩ := em
  cases roundBit <;> cases stickyBit
  · exact le_rfl
  · exact le_rfl
  · exact Nat.le_add_right m _
  · exact Nat.le_succ m

theorem targetExponent_eq (e : ℤ) : Format.binary64.targetExponent e = max (e - 53) (-1074) := rfl

/-- What is left of a mantissa when it is shifted to its last place. -/
theorem shifted_bounds {m : ℕ} {e : ℤ} (pos : 0 < m) (least : -1074 ≤ e) :
    0 < m / 2 ^ (Format.binary64.targetExponent (totalExponent m e) - e).toNat ∧
      m / 2 ^ (Format.binary64.targetExponent (totalExponent m e) - e).toNat < 2 * unitBit := by
  have low := Nat.log2_self_le pos.ne'
  have high := Nat.lt_log2_self (n := m)
  rw [targetExponent_eq, totalExponent]
  generalize m.log2 = size at *
  rw [Nat.div_lt_iff_lt_mul (Nat.two_pow_pos _), Nat.div_pos_iff]
  have unit : 2 * unitBit = 2 ^ 53 := by decide
  rw [unit, ← Nat.pow_add]
  refine ⟨⟨Nat.two_pow_pos _, le_trans (Nat.pow_le_pow_right (by decide) ?_) low⟩,
    high.trans_le (Nat.pow_le_pow_right (by decide) ?_)⟩
  · omega
  · omega

/-- A finite value with the sign that keeps out of zero in a word. -/
def IsKept (s : Sign) (u : UnpackedFloat) : Prop :=
  ∃ m e pos, u = .finite s m e pos ∧ m < 2 * unitBit ∧ -1074 ≤ e

theorem isKept_roundWithAccuracy (s : Sign) {m : ℕ} {e : ℤ} (pos : 0 < m) (least : -1074 ≤ e)
    (accuracy : Accuracy) : IsKept s (roundWithAccuracy .binary64 s m e accuracy) := by
  obtain ⟨filled, -⟩ := shifted_bounds pos least
  unfold roundWithAccuracy shiftToTargetExponent shiftToExponent
  simp only [mantissa_shiftRight, mantissa_ofMantissaAndAccuracy]
  generalize (Format.binary64.targetExponent (totalExponent m e) - e).toNat = k at *
  have kept := le_roundedMantissa (ExtendedMantissa.ofMantissaAndAccuracy m accuracy >>> k)
  rw [mantissa_shiftRight, mantissa_ofMantissaAndAccuracy] at kept
  generalize (ExtendedMantissa.ofMantissaAndAccuracy m accuracy >>> k).roundedMantissa = r at *
  obtain ⟨nonzero, small⟩ := shifted_bounds (filled.trans_le kept) (show -1074 ≤ e + k by omega)
  rw [dif_neg nonzero.ne']
  exact ⟨_, _, nonzero, rfl, small, by omega⟩

theorem isKept_round (s : Sign) {m : ℕ} {e : ℤ} (pos : 0 < m) (least : -1074 ≤ e) :
    IsKept s (UnpackedFloat.round .binary64 s m e) := by
  unfold UnpackedFloat.round decreaseExponent
  simp only
  apply isKept_roundWithAccuracy
  · rw [Nat.shiftLeft_eq]
    exact Nat.mul_pos pos (Nat.two_pow_pos _)
  · rw [targetExponent_eq]
    omega

/-- On which side of zero a value lies. -/
inductive IsSide : Ordering → UnpackedFloat → Prop
  | below {u} : IsKept .negative u → IsSide .lt u
  | zero (s) : IsSide .eq (.zero s)
  | above {u} : IsKept .positive u → IsSide .gt u

theorem isSide_normalize {k e : ℤ} (least : -1074 ≤ e) (zeroSign : Sign) :
    IsSide (Ord.compare k 0) (UnpackedFloat.normalize .binary64 k e zeroSign) := by
  unfold UnpackedFloat.normalize
  rcases lt_trichotomy k 0 with below | rfl | above
  · rw [Int.compare_eq_lt.2 below]
    exact .below (isKept_round .negative (by omega) least)
  · exact .zero _
  · rw [Int.compare_eq_gt.2 above]
    exact .above (isKept_round .positive (by omega) least)

/-! Words. -/

theorem eq_zero_of_unpack_packComponents {s t : Sign} {e : BitVec 11} {m : BitVec 52}
    (h : UnpackedFloat.unpack .binary64 (packComponents .binary64 s e m) = .zero t) : e = 0 ∧ m = 0 := by
  unfold UnpackedFloat.unpack at h
  simp only [unpackMantissa_packComponents, unpackExponent_packComponents,
    unpackSign_packComponents, Sign.ofBitVec_toBitVec] at h
  split at h
  next => split at h <;> cases h
  next =>
    split at h
    next least =>
      split at h
      next none => exact ⟨least, none⟩
      next => cases h
    next => cases h

theorem unpack_pack_ne_zero {s t : Sign} {u : UnpackedFloat} (kept : IsKept s u) :
    UnpackedFloat.unpack .binary64 (UnpackedFloat.pack .binary64 u) ≠ .zero t := by
  obtain ⟨m, e, pos, rfl, small, least⟩ := kept
  unfold UnpackedFloat.pack
  simp only
  have bias : (Format.binary64.exponentBias : ℤ) = 1023 := by decide
  split
  next => exact fun zero => absurd (eq_zero_of_unpack_packComponents zero).1 (by decide)
  next inRange =>
    split
    next =>
      intro zero
      have biased := congrArg BitVec.toNat (eq_zero_of_unpack_packComponents zero).1
      rw [BitVec.toNat_ofNat, Nat.mod_eq_of_lt (by omega)] at biased
      change _ = 0 at biased
      rw [bias] at biased
      omega
    next notFilled =>
      intro zero
      have size : m.log2 < 53 := (Nat.log2_lt pos.ne').2 small
      have short : m < 2 ^ 52 := (Nat.log2_lt pos.ne').1 (by
        change ¬m.log2 + 1 = 53 at notFilled
        omega)
      have fraction := congrArg BitVec.toNat (eq_zero_of_unpack_packComponents zero).2
      rw [BitVec.toNat_ofNat, Nat.mod_eq_of_lt short] at fraction
      exact pos.ne' fraction

/-! Differences. -/

theorem decreaseExponent_mul {m : ℕ} {e place : ℤ} (within : place ≤ e) :
    ((decreaseExponent m e place).1 : ℚ) * 2 ^ place = m * 2 ^ e := by
  obtain ⟨k, shift⟩ := Int.eq_ofNat_of_zero_le (sub_nonneg.2 within)
  have exponent : e = k + place := by omega
  unfold decreaseExponent
  simp only
  rw [shift, Int.toNat_natCast, Nat.shiftLeft_eq, exponent, zpow_add₀ two_ne_zero, zpow_natCast]
  push_cast
  ring

theorem apply_signOf (s : Bool) (m : ℕ) (e : ℤ) :
    (((signOf s).apply m : ℤ) * 2 ^ e : ℚ) = (Parts.finite s m e).value := by
  cases s with
  | true =>
    change ((-(m : ℤ) : ℤ) * 2 ^ e : ℚ) = -(m * 2 ^ e)
    push_cast
    ring
  | false => rfl

/-- The whole number that a difference is rounded from, in units of the smaller last place. -/
def difference (s : Sign) (m : ℕ) (e : ℤ) (t : Sign) (n : ℕ) (f : ℤ) : ℤ :=
  s.apply (decreaseExponent m e (min e f)).1 - t.apply (decreaseExponent n f (min e f)).1

theorem sub_finite (s t : Sign) {m n : ℕ} (e f : ℤ) (hm : 0 < m) (hn : 0 < n) :
    UnpackedFloat.sub .binary64 (.finite s m e hm) (.finite t n f hn) =
      UnpackedFloat.normalize .binary64 (difference s m e t n f) (min e f) .positive := rfl

theorem neg_difference (s t : Sign) (m n : ℕ) (e f : ℤ) :
    -difference s m e t n f = difference t n f s m e := by
  rw [difference, difference, neg_sub, min_comm]

theorem difference_mul (s t : Bool) (m n : ℕ) (e f : ℤ) :
    (difference (signOf s) m e (signOf t) n f * 2 ^ min e f : ℚ) =
      (Parts.finite s m e).value - (Parts.finite t n f).value := by
  rw [difference, Int.cast_sub, sub_mul, apply_signOf, apply_signOf, Parts.value,
    decreaseExponent_mul (min_le_left e f), Parts.value, decreaseExponent_mul (min_le_right e f)]
  rfl

theorem isSide_finite {m : ℕ} {e : ℤ} (x : IsFinite m e) (hm : 0 < m) (s : Bool) :
    IsSide (cmp (Parts.finite s m e).value 0) (.finite (signOf s) m e hm) := by
  have size : (0 : ℚ) < m * 2 ^ e := mul_pos (Nat.cast_pos.2 hm) (two_zpow_pos e)
  cases s with
  | true =>
    have negative : (Parts.finite true m e).value < 0 := neg_lt_zero.2 size
    rw [negative.cmp_eq_lt]
    exact .below ⟨m, e, hm, rfl, x.lt, x.least⟩
  | false =>
    have positive : 0 < (Parts.finite false m e).value := size
    rw [positive.cmp_eq_gt]
    exact .above ⟨m, e, hm, rfl, x.lt, x.least⟩

theorem value_zero (s : Bool) (e : ℤ) : (Parts.finite s 0 e).value = 0 := by simp [Parts.value]

theorem cmp_neg_zero (q : ℚ) : cmp (-q) 0 = cmp 0 q := by
  have turned : StrictAnti fun a : ℚ => -a := fun _ _ h => neg_lt_neg h
  have swapped := turned.cmp_map_eq q 0
  rwa [neg_zero] at swapped

theorem isSide_sub {m n : ℕ} {e f : ℤ} (x : IsFinite m e) (y : IsFinite n f) (s t : Bool) :
    IsSide (cmp (Parts.finite s m e).value (Parts.finite t n f).value)
      (UnpackedFloat.sub .binary64 (Parts.finite s m e).unpacked (Parts.finite t n f).unpacked) := by
  rcases Nat.eq_zero_or_pos m with rfl | hm
  · rw [value_zero]
    rcases Nat.eq_zero_or_pos n with rfl | hn
    · rw [value_zero, cmp_self_eq_eq]
      cases s <;> cases t <;> exact .zero _
    · have side := isSide_finite y hn (!t)
      have turned : (Parts.finite (!t) n f).value = -(Parts.finite t n f).value := by
        cases t with
        | true => exact (neg_neg _).symm
        | false => rfl
      have sign : -signOf t = signOf (!t) := by cases t <;> rfl
      simp only [Parts.unpacked, dif_pos hn]
      rw [turned, cmp_neg_zero, ← sign] at side
      exact side
  · rcases Nat.eq_zero_or_pos n with rfl | hn
    · rw [value_zero]
      simp only [Parts.unpacked, dif_pos hm]
      exact isSide_finite x hm s
    · have order : cmp (Parts.finite s m e).value (Parts.finite t n f).value =
          Ord.compare (difference (signOf s) m e (signOf t) n f) 0 := by
        rw [← cmp_sub_zero, ← difference_mul, ← zero_mul (2 ^ min e f : ℚ),
          cmp_mul_pos_right (two_zpow_pos _), ← Int.cast_zero, Int.cast_strictMono.cmp_map_eq,
          cmp_eq_compare]
      simp only [Parts.unpacked, dif_pos hm, dif_pos hn, sub_finite]
      rw [order]
      exact isSide_normalize (le_min x.least y.least) .positive

/-- A word keeps the sign of what is not zero. -/
theorem IsKept.compare_unpack_pack {s : Sign} {u : UnpackedFloat} (kept : IsKept s u) :
    (UnpackedFloat.unpack .binary64 (UnpackedFloat.pack .binary64 u)).compare (.zero .positive) =
      some (if s == .negative then .lt else .gt) := by
  have sign : HasSign s (UnpackedFloat.unpack .binary64 (UnpackedFloat.pack .binary64 u)) := by
    apply hasSign_unpack_pack
    obtain ⟨m, e, pos, rfl, -⟩ := kept
    rfl
  have nonzero (t : Sign) := unpack_pack_ne_zero (t := t) kept
  cases unpacked : UnpackedFloat.unpack .binary64 (UnpackedFloat.pack .binary64 u) with
  | notANumber =>
    rw [unpacked] at sign
    exact sign.elim
  | zero t => exact absurd unpacked (nonzero t)
  | infinity t | finite t =>
    rw [unpacked] at sign
    obtain rfl : t = s := sign
    cases t <;> rfl

theorem IsSide.compare_unpack_pack {o : Ordering} {u : UnpackedFloat} (side : IsSide o u) :
    (UnpackedFloat.unpack .binary64 (UnpackedFloat.pack .binary64 u)).compare (.zero .positive) =
      some o := by
  cases side with
  | zero s =>
    change (UnpackedFloat.unpack .binary64 (packedZero .binary64 s)).compare _ = _
    rw [unpack_packedZero]
    rfl
  | below kept | above kept => exact kept.compare_unpack_pack

/-- The difference of finite floats is to zero what the first is to the second. -/
theorem compare_sub {x y : Float} (hx : x.isFinite = true) (hy : y.isFinite = true) :
    (x - y).toModel.unpack.compare (.zero .positive) = x.toModel.unpack.compare y.toModel.unpack := by
  obtain ⟨s, m, e, xParts⟩ := exists_parts_of_isFinite hx
  obtain ⟨t, n, f, yParts⟩ := exists_parts_of_isFinite hy
  have side := isSide_sub (isFinite_of_parts xParts) (isFinite_of_parts yParts) s t
  rw [← xParts, ← yParts, ← unpack_eq_parts, ← unpack_eq_parts] at side
  rw [unpack_eq_parts x, unpack_eq_parts y, xParts, yParts,
    compare_finite (isFinite_of_parts xParts) (isFinite_of_parts yParts), ← xParts, ← yParts]
  exact side.compare_unpack_pack

section

variable {x y : Float} (hx : x.isFinite = true) (hy : y.isFinite = true)

include hx hy

theorem sub_lt_zero_iff : x - y < 0.0 ↔ x < y := by
  rw [lt_iff_compare, lt_iff_compare, unpack_zero, compare_sub hx hy]

theorem zero_lt_sub_iff : 0.0 < x - y ↔ y < x := by
  rw [lt_iff_compare, lt_iff_compare, unpack_zero, compare_swap (x - y).toModel.unpack,
    compare_sub hx hy, compare_swap x.toModel.unpack]

theorem isNaN_sub_eq_false : (x - y).isNaN = false := by
  obtain ⟨o, order⟩ :=
    exists_compare_eq (isNaN_eq_false_of_isFinite hx) (isNaN_eq_false_of_isFinite hy)
  have side := compare_sub hx hy
  rw [order] at side
  have unpacked : (x - y).isNaN = (x - y).toModel.unpack.isNaN := rfl
  rw [unpacked]
  cases same : (x - y).toModel.unpack with
  | notANumber =>
    rw [same] at side
    cases side
  | _ => rfl

end

/-! Turning a difference about. -/

theorem neg_round (s : Sign) (m : ℕ) (e : ℤ) :
    (UnpackedFloat.round .binary64 s m e).neg = UnpackedFloat.round .binary64 (-s) m e := by
  unfold UnpackedFloat.round roundWithAccuracy
  simp only
  split <;> rfl

theorem neg_normalize {k : ℤ} (nonzero : k ≠ 0) (e : ℤ) (s : Sign) :
    (UnpackedFloat.normalize .binary64 k e s).neg = UnpackedFloat.normalize .binary64 (-k) e s := by
  unfold UnpackedFloat.normalize
  rcases lt_or_gt_of_ne nonzero with below | above
  · rw [Int.compare_eq_lt.2 below, Int.compare_eq_gt.2 (show -k > 0 by omega)]
    exact neg_round _ _ _
  · rw [Int.compare_eq_gt.2 above, Int.compare_eq_lt.2 (show -k < 0 by omega), neg_neg]
    exact neg_round _ _ _

/-- Two zeros, or the one difference under the other sign. -/
theorem sub_swap_cases (u v : UnpackedFloat) :
    (∃ s t, UnpackedFloat.sub .binary64 u v = .zero s ∧ UnpackedFloat.sub .binary64 v u = .zero t) ∨
      (UnpackedFloat.sub .binary64 u v).neg = UnpackedFloat.sub .binary64 v u := by
  cases u with
  | notANumber =>
    right
    cases v <;> rfl
  | infinity s =>
    right
    cases v with
    | infinity t => cases s <;> cases t <;> rfl
    | _ => rfl
  | zero s =>
    cases v with
    | zero t => cases s <;> cases t <;> exact .inl ⟨_, _, rfl, rfl⟩
    | notANumber => exact .inr rfl
    | infinity t | finite t =>
      right
      cases t <;> rfl
  | finite s m e hm =>
    cases v with
    | notANumber | zero t => exact .inr rfl
    | infinity t =>
      right
      cases t <;> rfl
    | finite t n f hn =>
      rw [sub_finite, sub_finite, ← neg_difference s t, min_comm f e]
      generalize difference s m e t n f = k
      by_cases zero : k = 0
      · subst zero
        exact .inl ⟨_, _, rfl, rfl⟩
      · exact .inr (neg_normalize zero _ _)

theorem unpack_packComponents_neg (s : Sign) (e : BitVec 11) (m : BitVec 52) :
    UnpackedFloat.unpack .binary64 (packComponents .binary64 (-s) e m) =
      (UnpackedFloat.unpack .binary64 (packComponents .binary64 s e m)).neg := by
  unfold UnpackedFloat.unpack
  simp only [unpackMantissa_packComponents, unpackExponent_packComponents,
    unpackSign_packComponents, Sign.ofBitVec_toBitVec]
  split
  next => split <;> rfl
  next =>
    split
    next => split <;> rfl
    next => rfl

theorem unpack_pack_neg (u : UnpackedFloat) :
    UnpackedFloat.unpack .binary64 (UnpackedFloat.pack .binary64 u.neg) =
      (UnpackedFloat.unpack .binary64 (UnpackedFloat.pack .binary64 u)).neg := by
  cases u with
  | notANumber => rfl
  | infinity s => exact unpack_packComponents_neg s _ _
  | zero s => exact unpack_packComponents_neg s _ _
  | finite s m e pos =>
    change UnpackedFloat.unpack .binary64 (UnpackedFloat.pack .binary64 (.finite (-s) m e pos)) = _
    unfold UnpackedFloat.pack
    simp only
    split
    next => exact unpack_packComponents_neg s _ _
    next => split <;> exact unpack_packComponents_neg s _ _

theorem unpack_neg (x : Float) : (-x).toModel.unpack = x.toModel.unpack.neg := by
  have same : UnpackedFloat.pack .binary64 x.toModel.unpack = x.toModel.toBits.toBitVec :=
    pack_unpack_of_valid x.toModel.valid
  have turned := unpack_pack_neg x.toModel.unpack
  rw [same] at turned
  exact turned

theorem sub_beq_neg_sub {x y : Float} (hx : x.isFinite = true) (hy : y.isFinite = true) :
    (y - x == -(x - y)) = true := by
  have difference (a b : Float) : (a - b).toModel.unpack = UnpackedFloat.unpack .binary64
      (UnpackedFloat.pack .binary64 (UnpackedFloat.sub .binary64 a.toModel.unpack b.toModel.unpack)) := rfl
  rcases sub_swap_cases x.toModel.unpack y.toModel.unpack with ⟨s, t, left, right⟩ | turned
  · have packed (r : Sign) : UnpackedFloat.unpack .binary64 (UnpackedFloat.pack .binary64 (.zero r)) =
        .zero r := unpack_packedZero
    change ((y - x).toModel.unpack.compare (-(x - y)).toModel.unpack == some .eq) = true
    rw [unpack_neg, difference, difference, left, right, packed, packed]
    rfl
  · have same : y - x = -(x - y) := by
      apply eq_of_unpack_eq
      rw [unpack_neg, difference, difference, ← turned, unpack_pack_neg]
    have number := isNaN_sub_eq_false hy hx
    rw [← same]
    exact (beq_iff_number_eq number number).2 rfl

end Outlay.Binary64
