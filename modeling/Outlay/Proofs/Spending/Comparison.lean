import Outlay.Proofs.Binary64.Difference
import Outlay.Proofs.Binary64.Sign
import Outlay.Spending.Comparison

/-!
# Verdicts of comparisons

The verdict is taken from a rounded difference, and it says which total is the higher one
nevertheless. The change in percent has its sign, or is zero.
-/

namespace Outlay.Spending

open Binary64 Calendar

/-- The verdict from the other side. -/
def Verdict.swapped : Verdict → Verdict
  | .higher => .lower
  | .lower => .higher
  | .same => .same

/-- A verdict that is true of the totals, and a change that goes with it. -/
structure Comparison.IsTrue (c : Comparison) : Prop where
  higher : c.verdict = .higher ↔ c.current.total > c.previous.total
  lower : c.verdict = .lower ↔ c.current.total < c.previous.total
  same : c.verdict = .same ↔ (c.current.total == c.previous.total) = true
  number : c.percentChange.isNaN = false
  rise : c.verdict = .higher → c.percentChange ≥ 0.0
  fall : c.verdict = .lower → c.percentChange ≤ 0.0
  none : c.verdict = .same ∨ (c.previous.total == 0.0) = true → (c.percentChange == 0.0) = true

/-! Changes. -/

theorem hasSign_toTenths {s : Float.Model.UnpackedFloat.Sign} {x : Float}
    (sign : HasSign s x.toModel.unpack) : HasSign s (toTenths x).toModel.unpack := by
  have ten : (0.0 : Float) < 10.0 ∧ (10.0 : Float).isFinite = true := by decide +kernel
  exact hasSign_div (hasSign_roundHalfAway (hasSign_mul sign ten.1 ten.2)) ten.1 ten.2

theorem hasSign_percentChange {s : Float.Model.UnpackedFloat.Sign} {difference previous : Float}
    (sign : HasSign s difference.toModel.unpack) (finite : previous.isFinite = true) :
    HasSign s (percentChange difference previous).toModel.unpack := by
  have hundred : (0.0 : Float) < 100.0 ∧ (100.0 : Float).isFinite = true := by decide +kernel
  unfold percentChange
  split
  next positive =>
    exact hasSign_toTenths (hasSign_mul (hasSign_div sign positive finite) hundred.1 hundred.2)
  next =>
    rw [unpack_zero]
    trivial

theorem percentChange_of_beq_zero (difference : Float) {previous : Float}
    (zero : (previous == 0.0) = true) : percentChange difference previous = 0.0 := by
  have order : previous.toModel.unpack.compare (0.0 : Float).toModel.unpack = some .eq := beq_iff_eq.1 zero
  have notPositive : ¬previous > 0.0 := by
    rw [gt_iff_lt, lt_iff_compare, compare_swap previous.toModel.unpack, order]
    decide
  exact if_neg notPositive

/-! Verdicts. -/

section

variable {x y : Float} (hx : x.isFinite = true) (hy : y.isFinite = true)

include hx hy

theorem Verdict.of_sub_eq :
    Verdict.of (x - y) =
      if (parts y).number < (parts x).number then .higher
      else if (parts x).number < (parts y).number then .lower
      else .same := by
  have less := lt_iff_number_lt (isNaN_eq_false_of_isFinite hx) (isNaN_eq_false_of_isFinite hy)
  have greater := lt_iff_number_lt (isNaN_eq_false_of_isFinite hy) (isNaN_eq_false_of_isFinite hx)
  unfold Verdict.of
  simp only [gt_iff_lt, zero_lt_sub_iff hx hy, sub_lt_zero_iff hx hy, less, greater]

theorem Verdict.of_sub_swap : Verdict.of (y - x) = (Verdict.of (x - y)).swapped := by
  rw [of_sub_eq hx hy, of_sub_eq hy hx]
  rcases lt_trichotomy (parts x).number (parts y).number with less | equal | greater
  · rw [if_pos less, if_neg less.not_gt, if_pos less]
    rfl
  · rw [equal, if_neg (lt_irrefl _), if_neg (lt_irrefl _)]
    rfl
  · rw [if_neg greater.not_gt, if_pos greater, if_pos greater]
    rfl

theorem Verdict.of_sub_iff :
    (Verdict.of (x - y) = .higher ↔ x > y) ∧ (Verdict.of (x - y) = .lower ↔ x < y) ∧
      (Verdict.of (x - y) = .same ↔ (x == y) = true) := by
  have xNumber := isNaN_eq_false_of_isFinite hx
  have yNumber := isNaN_eq_false_of_isFinite hy
  rw [of_sub_eq hx hy, gt_iff_lt, lt_iff_number_lt xNumber yNumber, lt_iff_number_lt yNumber xNumber,
    beq_iff_number_eq xNumber yNumber]
  rcases lt_trichotomy (parts x).number (parts y).number with less | equal | greater
  · simp [less, less.not_gt, less.ne]
  · simp [equal]
  · simp [greater, greater.not_gt, greater.ne']

end

theorem Comparison.isTrue_of {current previous : PeriodTotal} (hc : current.total.isFinite = true)
    (hp : previous.total.isFinite = true) : (Comparison.of current previous).IsTrue := by
  obtain ⟨higher, lower, same⟩ := Verdict.of_sub_iff hc hp
  have zeroNumber : (0.0 : Float).isNaN = false := by decide +kernel
  have number := isNaN_sub_eq_false hc hp
  have unsigned (notLower : (Comparison.of current previous).verdict ≠ .lower) :
      HasSign .positive (Comparison.of current previous).percentChange.toModel.unpack := by
    have atLeast : 0.0 ≤ current.total - previous.total := by
      rw [← not_lt_iff_le number zeroNumber, sub_lt_zero_iff hc hp, ← lower]
      exact notLower
    exact hasSign_percentChange (hasSign_positive_iff.2 (zero_le_iff.1 atLeast)) hp
  have negative (notHigher : (Comparison.of current previous).verdict ≠ .higher) :
      HasSign .negative (Comparison.of current previous).percentChange.toModel.unpack := by
    have atMost : current.total - previous.total ≤ 0.0 := by
      rw [← not_lt_iff_le zeroNumber number, zero_lt_sub_iff hc hp, ← gt_iff_lt, ← higher]
      exact notHigher
    exact hasSign_percentChange (le_zero_iff.1 atMost) hp
  refine ⟨higher, lower, same, ?_, fun rise => ?_, fun fall => ?_, ?_⟩
  · by_cases isLower : (Comparison.of current previous).verdict = .lower
    · exact isNaN_eq_false_of_hasSign (negative (by rw [isLower]; decide))
    · exact isNaN_eq_false_of_hasSign (unsigned isLower)
  · exact zero_le_iff.2 (hasSign_positive_iff.1 (unsigned (by rw [rise]; decide)))
  · exact le_zero_iff.2 (negative (by rw [fall]; decide))
  · rintro (rest | zero)
    · exact beq_zero_of_hasSign (unsigned (by rw [rest]; decide)) (negative (by rw [rest]; decide))
    · have none : (Comparison.of current previous).percentChange = 0.0 :=
        percentChange_of_beq_zero _ zero
      rw [none]
      decide +kernel

/-- Whatever the periods are, as long as both totals are finite, the verdict is true and the change
has its sign. The periods the other way round have the opposite verdict and difference. -/
theorem compare_isTrue (current previous : Period) (category : Option String) (records : List Transaction)
    (hc : (compare current previous category records).current.total.isFinite = true)
    (hp : (compare current previous category records).previous.total.isFinite = true) :
    (compare current previous category records).IsTrue ∧
      (compare previous current category records).verdict =
        (compare current previous category records).verdict.swapped ∧
      ((compare previous current category records).difference ==
        -(compare current previous category records).difference) = true :=
  ⟨Comparison.isTrue_of hc hp, Verdict.of_sub_swap hc hp, sub_beq_neg_sub hc hp⟩

/-- Two totals that are the same but for rounding, and a period that ends before it starts. -/
theorem compare_isTrue_tenths :
    let first : Day := ⟨2026, 1, 1, by decide⟩
    let second : Day := ⟨2026, 1, 2, by decide⟩
    let records : List Transaction := [⟨1, "Tea", .ofFloat 0.1, "Dining", first, .midnight⟩,
      ⟨2, "Cake", .ofFloat 0.2, "Dining", first, .midnight⟩,
      ⟨3, "Beans", .ofFloat 0.3, "Dining", second, .midnight⟩]
    let rounded := compare ⟨first, first⟩ ⟨second, second⟩ (some "Dining") records
    let reversed := compare ⟨first, second⟩ ⟨second, first⟩ none records
    rounded.verdict = .higher ∧ rounded.difference = 0.000000000000000055511151231257827 ∧
      rounded.IsTrue ∧ reversed.previous.total = -0.0 ∧ reversed.percentChange = 0.0 ∧
      reversed.IsTrue := by
  intro first second records rounded reversed
  refine ⟨by decide +kernel, by decide +kernel, ?_, by decide +kernel, by decide +kernel, ?_⟩
  · exact (compare_isTrue _ _ _ _ (by decide +kernel) (by decide +kernel)).1
  · exact (compare_isTrue _ _ _ _ (by decide +kernel) (by decide +kernel)).1

end Outlay.Spending
