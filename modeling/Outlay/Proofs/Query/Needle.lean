import Outlay.Proofs.Text.Lowercase
import Outlay.Proofs.Text.Sigma
import Outlay.Query.Predicate

/-!
# What a search for a word finds

The word and the texts of a record are put in lowercase apart from each other, and what surrounds the word
in a record can change its capital sigmas. A word without them is found wherever it stands; one whose
capital sigma may or may not end a word is missed in some records that have it literally.
-/

namespace Outlay.Query

open Text

/-- The word stands literally in description or category, between the two texts. -/
def StandsBetween (front back : List Char) (word : String) (t : Transaction) : Prop :=
  t.description.toList = front ++ word.toList ++ back ∨ t.category.toList = front ++ word.toList ++ back

theorem accepts_text_iff {word : String} {t : Transaction} :
    (Token.text word).accepts t = true ↔
      occursIn (lowercase word.toList) (lowercase t.description.toList) = true ∨
        occursIn (lowercase word.toList) (lowercase t.category.toList) = true := by
  simp [Token.accepts, Predicate.ofToken, Predicate.accepts, lowercased]

theorem accepts_text_of_sigmasAlike {word : String} {t : Transaction} {front back : List Char}
    (stands : StandsBetween front back word t) (alike : SigmasAlike front word.toList back) :
    (Token.text word).accepts t = true := by
  have occurs := occursIn_lowercase alike
  rw [accepts_text_iff]
  rcases stands with inDescription | inCategory
  · left
    rwa [inDescription]
  · right
    rwa [inCategory]

/-- A record with this description and an empty category. -/
def described (description : List Char) : Transaction where
  id := 1
  description := String.ofList description
  amount := .ofFloat 1.0
  category := ""
  timestamp := ⟨⟨2026, 1, 1, by decide⟩, .midnight⟩

theorem accepts_text_described {word : String} (named : word ≠ "") (description : List Char) :
    (Token.text word).accepts (described description) =
      occursIn (lowercase word.toList) (lowercase description) := by
  have nonempty : lowercase word.toList ≠ [] := by
    intro empty
    have length := length_lowercase word.toList
    rw [empty, List.length_nil] at length
    exact named (String.toList_eq_nil_iff.1 (List.length_eq_zero_iff.1 (by omega)))
  rw [Bool.eq_iff_iff, accepts_text_iff]
  simp [described, occursIn, nonempty]

/-- A word is found where its capital sigmas end words as they do in the word alone. It is found in all
records that have it literally exactly if nothing that may surround it changes them. -/
theorem text_finds_what_stands (word : String) :
    (∀ t front back, StandsBetween front back word t → SigmasAlike front word.toList back →
      (Token.text word).accepts t = true) ∧
    ((∀ t front back, StandsBetween front back word t → (Token.text word).accepts t = true) ↔
      ∀ before after, word.toList = before ++ 'Σ' :: after → Settled before after) := by
  refine ⟨fun t front back => accepts_text_of_sigmasAlike, ?_, ?_⟩
  · intro found before after split
    by_contra unsettled
    obtain ⟨front, back, missed⟩ := exists_not_occursIn_lowercase unsettled
    have named : word ≠ "" := by
      rintro rfl
      simp at split
    have stands : StandsBetween front back word (described (front ++ word.toList ++ back)) :=
      .inl String.toList_ofList
    have accepted := found _ _ _ stands
    rw [accepts_text_described named, split, missed] at accepted
    cases accepted
  · intro settled t front back stands
    exact accepts_text_of_sigmasAlike stands (sigmasAlike_of_settled settled front back)

/-- A sigma that ends the word and its place in the record, and one that a letter follows in the word
itself. -/
theorem text_finds_what_stands_beforeBlank :
    StandsBetween [] " 5".toList "ΜΟΥΣ" (described "ΜΟΥΣ 5".toList) ∧
      SigmasAlike [] "ΜΟΥΣ".toList " 5".toList ∧
      (Token.text "ΜΟΥΣ").accepts (described "ΜΟΥΣ 5".toList) = true ∧
      (∀ before after, "ΣΑ".toList = before ++ 'Σ' :: after → Settled before after) ∧
      StandsBetween "ΜΕ".toList "Σ".toList "ΣΑ" (described "ΜΕΣΑΣ".toList) ∧
      (Token.text "ΣΑ").accepts (described "ΜΕΣΑΣ".toList) = true := by
  have stands : StandsBetween [] " 5".toList "ΜΟΥΣ" (described "ΜΟΥΣ 5".toList) := .inl (by decide +kernel)
  have alike : SigmasAlike [] "ΜΟΥΣ".toList " 5".toList :=
    lowercaseBetween_eq_lowercase_iff.1 (by decide +kernel)
  have settled : ∀ before after, "ΣΑ".toList = before ++ 'Σ' :: after → Settled before after := by
    rintro (_ | ⟨c, _ | ⟨d, before⟩⟩) after split
    · obtain rfl := (List.cons.inj split).2
      decide +kernel
    · simp at split
    · simp at split
  have inside : StandsBetween "ΜΕ".toList "Σ".toList "ΣΑ" (described "ΜΕΣΑΣ".toList) :=
    .inl (by decide +kernel)
  exact ⟨stands, alike, (text_finds_what_stands "ΜΟΥΣ").1 _ _ _ stands alike, settled, inside,
    (text_finds_what_stands "ΣΑ").2.2 settled _ _ _ inside⟩

/-- The first letters of a description are not found in it: in the search their sigma ends a word. -/
theorem text_misses_what_stands :
    StandsBetween [] "ΕΙΟ".toList "ΜΟΥΣ" (described "ΜΟΥΣΕΙΟ".toList) ∧
      (Token.text "ΜΟΥΣ").accepts (described "ΜΟΥΣΕΙΟ".toList) = false :=
  ⟨.inl (by decide +kernel), by decide +kernel⟩

end Outlay.Query
