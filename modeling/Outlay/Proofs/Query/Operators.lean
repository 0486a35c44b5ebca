import Outlay.Proofs.Binary64.Value
import Outlay.Query.Predicate

/-!
# How the operators of a filter go together

On the amount the operators follow the order of numbers, on a text all but two of them ask whether it is
equal, and a filter that makes no sense asks for nothing. Main statement: `filters_agree`.
-/

namespace Outlay.Query

open Binary64 Text

namespace Operator

/-- The operators of which one holds between any two numbers. -/
def IsOrdering (op : Operator) : Prop := op = less ∨ op = equal ∨ op = greater

/-- What the operators accept goes together as with numbers in an order. -/
structure ActsAsOrder (accepted : Operator → Prop) : Prop where
  one : ∃! op, IsOrdering op ∧ accepted op
  atLeast : accepted atLeast ↔ accepted greater ∨ accepted equal
  atMost : accepted atMost ↔ accepted less ∨ accepted equal
  notEqual : accepted notEqual ↔ ¬accepted equal
  contains : accepted contains

/-- What the operators accept goes together as with texts, which have no order. -/
structure ActsAsEquality (accepted : Operator → Prop) : Prop where
  one : ∃! op, (op = equal ∨ op = notEqual) ∧ accepted op
  ordering : ∀ op, op = greater ∨ op = atLeast ∨ op = less ∨ op = atMost →
    (accepted op ↔ accepted equal)
  contains : accepted equal → accepted contains

/-- The operator holds between the numbers; containment says nothing about them. -/
def holds (op : Operator) (x y : Float) : Prop := (op.compare? x y).getD true = true

section

variable {x y : Float} (hx : x.isNaN = false) (hy : y.isNaN = false)

include hx hy

theorem holds_iff_number (op : Operator) :
    op.holds x y ↔
      match op with
      | equal => (parts x).number = (parts y).number
      | notEqual => (parts x).number ≠ (parts y).number
      | greater => (parts y).number < (parts x).number
      | atLeast => (parts y).number ≤ (parts x).number
      | less => (parts x).number < (parts y).number
      | atMost => (parts x).number ≤ (parts y).number
      | contains => True := by
  cases op with
  | equal => exact beq_iff_number_eq hx hy
  | notEqual =>
    simp only [holds, compare?, Option.getD_some, bne, ne_eq, ← beq_iff_number_eq hx hy,
      Bool.not_eq_true', Bool.not_eq_true]
  | greater => exact decide_eq_true_iff.trans (lt_iff_number_lt hy hx)
  | atLeast => exact decide_eq_true_iff.trans (le_iff_number_le hy hx)
  | less => exact decide_eq_true_iff.trans (lt_iff_number_lt hx hy)
  | atMost => exact decide_eq_true_iff.trans (le_iff_number_le hx hy)
  | contains => exact iff_of_true rfl trivial

theorem actsAsOrder_holds : ActsAsOrder fun op => op.holds x y := by
  refine ⟨?_, ?_, ?_, ?_, (holds_iff_number hx hy contains).2 trivial⟩
  · have only {op : Operator} (ordering : IsOrdering op) (accepted : op.holds x y) :
        ∃! op, IsOrdering op ∧ op.holds x y := by
      refine ⟨op, ⟨ordering, accepted⟩, fun other ⟨among, accepted'⟩ => ?_⟩
      rw [holds_iff_number hx hy] at accepted accepted'
      rcases ordering with rfl | rfl | rfl <;> rcases among with rfl | rfl | rfl <;> grind
    rcases lt_trichotomy (parts x).number (parts y).number with below | same | above
    · exact only (.inl rfl) ((holds_iff_number hx hy less).2 below)
    · exact only (.inr (.inl rfl)) ((holds_iff_number hx hy equal).2 same)
    · exact only (.inr (.inr rfl)) ((holds_iff_number hx hy greater).2 above)
  · simp only [holds_iff_number hx hy]
    rw [le_iff_lt_or_eq, eq_comm]
  · simp only [holds_iff_number hx hy]
    exact le_iff_lt_or_eq
  · simp only [holds_iff_number hx hy]

end

/-- Raising the bound makes fewer numbers greater and more numbers less. -/
theorem holds_of_le {x y y' : Float} (hx : x.isNaN = false) (order : y ≤ y') :
    (greater.holds x y' → greater.holds x y) ∧ (less.holds x y → less.holds x y') := by
  obtain ⟨hy, hy'⟩ := isNaN_eq_false_of_le order
  rw [le_iff_number_le hy hy'] at order
  simp only [holds_iff_number hx hy, holds_iff_number hx hy']
  exact ⟨order.trans_lt, fun below => below.trans_le order⟩

theorem actsAsEquality_relates (actual expected : String) :
    ActsAsEquality fun op => op.relates actual expected = true := by
  refine ⟨?_, ?_, ?_⟩
  · by_cases same : actual = expected
    · refine ⟨equal, ⟨.inl rfl, by simp [relates, same]⟩, ?_⟩
      rintro op ⟨rfl | rfl, accepted⟩
      · rfl
      · simp [relates, same] at accepted
    · refine ⟨notEqual, ⟨.inr rfl, by simp [relates, same]⟩, ?_⟩
      rintro op ⟨rfl | rfl, accepted⟩
      · simp [relates, same] at accepted
      · rfl
  · rintro op (rfl | rfl | rfl | rfl) <;> rfl
  · intro accepted
    obtain rfl : actual = expected := by simpa [relates] using accepted
    exact occursIn_iff.2 ⟨[], [], by simp⟩

end Operator

/-! Filters. -/

/-- The value reads as this number; blanks around it do not count. -/
def Reads (value : String) (x : Float) : Prop :=
  readFloat? (trim value.toList) = some x ∧ x.isNaN = false

theorem bound?_eq_some_iff {value : String} {x : Float} :
    Predicate.bound? value = some x ↔ Reads value x := by
  simp [Predicate.bound?, Reads, Option.filter_eq_some_iff]

namespace Token

section

variable {field : String} (value : String) (t : Transaction)

theorem accepts_amount {x : Float} (amount : Field.ofName? field = some .amount)
    (reads : Reads value x) (op : Operator) :
    (filter field op value).accepts t = true ↔ op.holds t.amount.value x := by
  have bound := bound?_eq_some_iff.2 reads
  unfold accepts Predicate.ofToken
  simp only [amount, bound]
  split
  next contained =>
    subst contained
    exact iff_of_true rfl rfl
  next => rfl

theorem accepts_unreadable (amount : Field.ofName? field = some .amount)
    (unreadable : ¬∃ x, Reads value x) (op : Operator) : (filter field op value).accepts t = true := by
  have bound : Predicate.bound? value = none := by
    rw [Option.eq_none_iff_forall_ne_some]
    exact fun x found => unreadable ⟨x, bound?_eq_some_iff.1 found⟩
  unfold accepts Predicate.ofToken
  simp only [amount, bound]
  rfl

theorem accepts_unknown (unknown : Field.ofName? field = none) (op : Operator) :
    (filter field op value).accepts t = true := by
  unfold accepts Predicate.ofToken
  simp only [unknown]
  rfl

theorem exists_accepts_text (isText : Field.ofName? field = some .category ∨
    Field.ofName? field = some .description) :
    ∃ actual, ∀ op, (filter field op value).accepts t = op.relates actual (lowercased value) := by
  rcases isText with category | description
  · refine ⟨lowercased t.category, fun op => ?_⟩
    unfold accepts Predicate.ofToken
    simp only [category]
    rfl
  · refine ⟨lowercased t.description, fun op => ?_⟩
    unfold accepts Predicate.ofToken
    simp only [description]
    rfl

end

/-- The answers of filters that differ in the operator alone agree with each other, whatever their value. -/
theorem filters_agree (t : Transaction) (number : t.amount.value.isNaN = false) :
    (∀ field, field = "amount" ∨ field = "amt" →
      (∀ value, (∃ x, Reads value x) →
        Operator.ActsAsOrder fun op => (filter field op value).accepts t = true) ∧
      (∀ value, (¬∃ x, Reads value x) → ∀ op, (filter field op value).accepts t = true) ∧
      ∀ value value' x x', Reads value x → Reads value' x' → x ≤ x' →
        ((filter field .greater value').accepts t = true →
          (filter field .greater value).accepts t = true) ∧
        ((filter field .less value).accepts t = true →
          (filter field .less value').accepts t = true)) ∧
    (∀ field, field = "category" ∨ field = "cat" ∨ field = "description" ∨ field = "desc" →
      ∀ value, Operator.ActsAsEquality fun op => (filter field op value).accepts t = true) ∧
    ∀ field, field ∉ ["amount", "amt", "category", "cat", "description", "desc"] →
      ∀ op value, (filter field op value).accepts t = true := by
  refine ⟨?_, ?_, ?_⟩
  · intro field named
    have amount : Field.ofName? field = some .amount := by rcases named with rfl | rfl <;> rfl
    refine ⟨?_, fun value unreadable => accepts_unreadable value t amount unreadable, ?_⟩
    · rintro value ⟨x, reads⟩
      simp only [accepts_amount value t amount reads]
      exact Operator.actsAsOrder_holds number reads.2
    · intro value value' x x' reads reads' order
      simp only [accepts_amount value t amount reads, accepts_amount value' t amount reads']
      exact Operator.holds_of_le number order
  · intro field named value
    have isText : Field.ofName? field = some .category ∨ Field.ofName? field = some .description := by
      rcases named with rfl | rfl | rfl | rfl
      · exact .inl rfl
      · exact .inl rfl
      · exact .inr rfl
      · exact .inr rfl
    obtain ⟨actual, answers⟩ := exists_accepts_text value t isText
    simp only [answers]
    exact Operator.actsAsEquality_relates actual (lowercased value)
  · intro field unknown op value
    refine accepts_unknown value t ?_ op
    unfold Field.ofName?
    simp_all

/-- Between an equal bound and an infinite one, with a value that is no number and a field in capitals. -/
theorem filters_agree_lunch :
    let t : Transaction :=
      ⟨1, "Lunch", .ofFloat 12.5, "Dining", ⟨⟨2026, 2, 18, by decide⟩, .midnight⟩⟩
    t.amount.value.isNaN = false ∧ Reads " 12.50 " 12.5 ∧ Reads "inf" (1.0 / 0.0) ∧
      (¬∃ x, Reads "nan" x) ∧
      (Operator.ActsAsOrder fun op => (filter "amount" op " 12.50 ").accepts t = true) ∧
      (∀ op, (filter "amt" op "nan").accepts t = true) ∧
      ((filter "amt" .less " 12.50 ").accepts t = true → (filter "amt" .less "inf").accepts t = true) ∧
      (Operator.ActsAsEquality fun op => (filter "cat" op "DINING").accepts t = true) ∧
      ∀ op, (filter "Amount" op "1").accepts t = true := by
  intro t
  have number : t.amount.value.isNaN = false := by decide +kernel
  have same : Reads " 12.50 " 12.5 := ⟨by decide +kernel, by decide +kernel⟩
  have infinite : Reads "inf" (1.0 / 0.0) := ⟨by decide +kernel, by decide +kernel⟩
  have unreadable : ¬∃ x, Reads "nan" x := by
    rintro ⟨x, read, isNumber⟩
    have nan : readFloat? (trim "nan".toList) = some (0.0 / 0.0) := by decide +kernel
    obtain rfl := Option.some.inj (nan.symm.trans read)
    exact absurd isNumber (by decide +kernel)
  obtain ⟨onAmount, onText, onOther⟩ := filters_agree t number
  exact ⟨number, same, infinite, unreadable, (onAmount "amount" (.inl rfl)).1 _ ⟨_, same⟩,
    (onAmount "amt" (.inr rfl)).2.1 _ unreadable,
    ((onAmount "amt" (.inr rfl)).2.2 _ _ _ _ same infinite (by decide +kernel)).2,
    onText "cat" (.inr (.inl rfl)) "DINING", fun op => onOther "Amount" (by decide) op "1"⟩

end Token

end Outlay.Query
