import Outlay.Text.Cased
import Outlay.Text.SmallLetter

/-!
The full lowercase form of a text. Two characters need more than the small letter of each capital:
`İ` becomes two characters, and a capital sigma that ends a word becomes `ς`.
-/

namespace Outlay.Text

/-- A cased letter follows, with nothing but case-ignorable characters before it. -/
def startsCased (s : List Char) : Bool :=
  (s.dropWhile isCaseIgnorable).head?.any isCased

/-- The lowercase form of a character other than a capital sigma. -/
def smallForm (c : Char) : List Char :=
  if c = 'İ' then ['i', '\u0307'] else [smallLetter c]

/-- `afterCased` tells that the nearest character before, case-ignorable ones left out, is cased. -/
def lowercaseFrom (afterCased : Bool) : List Char → List Char
  | [] => []
  | c :: rest =>
    let form :=
      if c = 'Σ' then [if afterCased && !startsCased rest then 'ς' else 'σ'] else smallForm c
    form ++ lowercaseFrom (if isCaseIgnorable c then afterCased else isCased c) rest

def lowercase (s : List Char) : List Char := lowercaseFrom false s

def lowercased (s : String) : String := String.ofList (lowercase s.toList)

@[simp] theorem lowercase_nil : lowercase [] = [] := rfl

example : lowercase "ΟΔΟΣ ΣΑΣ".toList = "οδος σας".toList := by decide +kernel
example : lowercase "İd".toList = "i\u0307d".toList := by decide +kernel

end Outlay.Text
