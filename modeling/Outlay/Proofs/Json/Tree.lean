import Outlay.Json.Node
import Outlay.Proofs.Except

/-!
# Trees and their words

A tree without faults is what its words, from left to right, are read as.
-/

namespace Outlay.Json

def Key.words : Key → List Lexeme
  | .string s => [.string s]
  | .broken _ => []

mutual

/-- The words of a tree. What is broken has none. -/
def Node.words : Node → List Lexeme
  | .null => [.null]
  | .bool b => [.bool b]
  | .number n => [.number n]
  | .string s => [.string s]
  | .misspelt f => [.misspelt f]
  | .array items => .openArray :: items.words
  | .object members => .openObject :: members.words
  | .broken _ => []
termination_by structural n => n

def Items.words : Items → List Lexeme
  | .done _ => [.closeArray]
  | .item n rest => n.words ++ rest.moreWords
termination_by structural items => items

def Items.moreWords : Items → List Lexeme
  | .done _ => [.closeArray]
  | .item n rest => .comma :: (n.words ++ rest.moreWords)
termination_by structural items => items

def Members.words : Members → List Lexeme
  | .done _ => [.closeObject]
  | .member key value rest => key.words ++ .colon :: (value.words ++ rest.moreWords)
termination_by structural members => members

def Members.moreWords : Members → List Lexeme
  | .done _ => [.closeObject]
  | .member key value rest => .comma :: (key.words ++ .colon :: (value.words ++ rest.moreWords))
termination_by structural members => members

end

mutual

/-- Nothing is broken and every bracket is closed. -/
def Node.Whole : Node → Prop
  | .array items => items.Whole
  | .object members => members.Whole
  | .broken _ => False
  | .null | .bool _ | .number _ | .string _ | .misspelt _ => True
termination_by structural n => n

def Items.Whole : Items → Prop
  | .done fault => fault = none
  | .item n rest => n.Whole ∧ rest.Whole
termination_by structural items => items

def Members.Whole : Members → Prop
  | .done fault => fault = none
  | .member key value rest => (∃ s, key = .string s) ∧ value.Whole ∧ rest.Whole
termination_by structural members => members

end

namespace Progress

/-- The first word of a tree tells that the array is not empty. -/
theorem foldl_words_itemOrEnd {n : Node} (whole : n.Whole) (frames : List Frame) :
    n.words.foldl step (reading .itemOrEnd frames) =
      n.words.foldl step (reading .value (.array [] :: frames)) := by
  cases n with
  | broken f => exact whole.elim
  | _ => rfl

mutual

theorem foldl_words : (n : Node) → n.Whole → (frames : List Frame) →
    n.words.foldl step (reading .value frames) = supply frames n
  | .null, _, _ | .bool _, _, _ | .number _, _, _ | .string _, _, _ | .misspelt _, _, _ => rfl
  | .broken _, whole, _ => whole.elim
  | .array items, whole, frames => by
    rw [Node.words, List.foldl_cons]
    exact foldl_itemWords items whole frames
  | .object members, whole, frames => by
    rw [Node.words, List.foldl_cons]
    exact foldl_memberWords members whole frames

theorem foldl_itemWords : (items : Items) → items.Whole → (frames : List Frame) →
    items.words.foldl step (reading .itemOrEnd frames) = supply frames (.array items)
  | .done fault, whole, frames => by
    obtain rfl : fault = none := whole
    rfl
  | .item n rest, ⟨whole, restWhole⟩, frames => by
    rw [Items.words, List.foldl_append, foldl_words_itemOrEnd whole, foldl_words n whole]
    exact foldl_moreItemWords rest restWhole [n] frames

theorem foldl_moreItemWords : (items : Items) → items.Whole → (before : List Node) →
    (frames : List Frame) →
    items.moreWords.foldl step (reading (.commaOrArrayEnd before) frames) =
      supply frames (.array (.ofReverse before items))
  | .done fault, whole, before, frames => by
    obtain rfl : fault = none := whole
    rfl
  | .item n rest, ⟨whole, restWhole⟩, before, frames => by
    rw [Items.moreWords, List.foldl_cons, List.foldl_append]
    change rest.moreWords.foldl step (n.words.foldl step (reading .value (.array before :: frames))) = _
    rw [foldl_words n whole]
    exact foldl_moreItemWords rest restWhole (n :: before) frames

theorem foldl_memberWords : (members : Members) → members.Whole → (frames : List Frame) →
    members.words.foldl step (reading .keyOrEnd frames) = supply frames (.object members)
  | .done fault, whole, frames => by
    obtain rfl : fault = none := whole
    rfl
  | .member key value rest, ⟨⟨s, named⟩, whole, restWhole⟩, frames => by
    subst named
    rw [Members.words, List.foldl_append, List.foldl_cons, List.foldl_append]
    change rest.moreWords.foldl step
      (value.words.foldl step (reading .value (.object [] (.string s) :: frames))) = _
    rw [foldl_words value whole]
    exact foldl_moreMemberWords rest restWhole [(.string s, value)] frames

theorem foldl_moreMemberWords : (members : Members) → members.Whole →
    (before : List (Key × Node)) → (frames : List Frame) →
    members.moreWords.foldl step (reading (.commaOrObjectEnd before) frames) =
      supply frames (.object (.ofReverse before members))
  | .done fault, whole, before, frames => by
    obtain rfl : fault = none := whole
    rfl
  | .member key value rest, ⟨⟨s, named⟩, whole, restWhole⟩, before, frames => by
    subst named
    rw [Members.moreWords, List.foldl_cons, List.foldl_append, List.foldl_cons, List.foldl_append]
    change rest.moreWords.foldl step
      (value.words.foldl step (reading .value (.object before (.string s) :: frames))) = _
    rw [foldl_words value whole]
    exact foldl_moreMemberWords rest restWhole ((.string s, value) :: before) frames

end

end Progress

/-- A text with the words of a tree is that tree. -/
theorem Document.ofChars_eq {s : List Char} {n : Node} (whole : n.Whole) (spelled : lexemes s = n.words) :
    Document.ofChars s = ⟨n, false⟩ := by
  unfold Document.ofChars
  rw [spelled, Progress.start, Progress.foldl_words n whole]
  rfl

theorem readText_eq {α : Type} {text : String} {n : Node} (whole : n.Whole)
    (spelled : lexemes text.toList = n.words) (read : Node → Read α) : readText read text = read n := by
  rw [readText, Document.ofChars_eq whole spelled]
  unfold Document.read
  cases read n <;> rfl

theorem readText_eq_ok_iff {α : Type} {read : Node → Read α} {text : String} {a : α} :
    readText read text = .ok a ↔ read (Document.ofChars text.toList).value = .ok a ∧
      (Document.ofChars text.toList).trailing = false := by
  unfold readText Document.read
  rw [bind_eq_ok_iff]
  cases (Document.ofChars text.toList).trailing with
  | true => simp [spoiled]
  | false => simp [pure, Except.pure]

end Outlay.Json
