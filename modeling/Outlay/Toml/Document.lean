import Outlay.Toml.Table

/-!
Documents of TOML: lines that set keys or open tables.
-/

namespace Outlay.Toml

/-- Drops blanks, line breaks and comments. A comment is passed over up to what it must not hold. -/
def skip (inComment : Bool) : List Char → List Char
  | [] => []
  | '\r' :: '\n' :: rest => skip false rest
  | c :: rest =>
    if c = '\n' then skip false rest
    else if inComment then if isPrintable c then skip true rest else c :: rest
    else if isSpace c then skip false rest
    else if c = '#' then skip true rest
    else c :: rest

/-- What follows the line; only blanks and a comment may be left of it. -/
def endLine (inComment : Bool) : List Char → Option (List Char)
  | [] => some []
  | '\r' :: '\n' :: rest => some rest
  | c :: rest =>
    if c = '\n' then some rest
    else if inComment then if isPrintable c then endLine true rest else none
    else if isSpace c then endLine false rest
    else if c = '#' then endLine true rest
    else none

/-- What a key that needs no quotes is made of. -/
def isBare (c : Char) : Bool := c.isAlphanum || c == '_' || c == '-'

def readName (s : List Char) : Scan String :=
  match s with
  | '"' :: rest => (readBasic rest).map fun (name, after) => (String.ofList name, after)
  | '\'' :: rest => (readLiteral rest).map fun (name, after) => (String.ofList name, after)
  | _ =>
    let name := s.takeWhile isBare
    if name.isEmpty then none else some (String.ofList name, s.dropWhile isBare)

/-- The most names that one key may have, and the most brackets around a value. -/
def depthLimit : Nat := 79

/-- A key of at most so many names. -/
def readKey : Nat → List Char → Scan Key
  | 0, _ => none
  | most + 1, s =>
    (readName (s.dropWhile isSpace)).bind fun (name, rest) =>
      match rest.dropWhile isSpace with
      | '.' :: rest => (readKey most rest).map fun (names, after) => (name :: names, after)
      | after => some ([name], after)

/-- The items of an array behind its opening bracket. A comma may follow the last one. -/
def readItems (item : List Char → Scan Value) (s : List Char) : Scan (List Value) :=
  match skip false s with
  | ']' :: after => some ([], after)
  | front =>
    (item front).bind fun (v, rest) =>
      match skip false rest with
      | ']' :: after => some ([v], after)
      | ',' :: rest =>
        if rest.length < s.length then
          (readItems item rest).map fun (vs, after) => (v :: vs, after)
        else none
      | _ => none
termination_by s.length

/-- A key and its value. -/
def readPair (item : List Char → Scan Value) (s : List Char) : Scan (Key × Value) :=
  (readKey depthLimit s).bind fun (key, rest) =>
    match rest with
    | '=' :: rest => (item (rest.dropWhile isSpace)).map fun (v, after) => ((key, v), after)
    | _ => none

/-- One pair and all that follow, up to the closing brace. -/
def readPairs (item : List Char → Scan Value) (s : List Char) : Scan (List (Key × Value)) :=
  (readPair item s).bind fun (pair, rest) =>
    match rest.dropWhile isSpace with
    | '}' :: after => some ([pair], after)
    | ',' :: rest =>
      if rest.length < s.length then
        (readPairs item rest).map fun (pairs, after) => (pair :: pairs, after)
      else none
    | _ => none
termination_by s.length

/-- The table in braces, behind the opening one. -/
def readInline (item : List Char → Scan Value) (s : List Char) : Scan Value :=
  match s.dropWhile isSpace with
  | '}' :: after => some (.table [], after)
  | front =>
    (readPairs item front).bind fun (pairs, after) =>
      (inlineTable? pairs).map fun entries => (.table entries, after)

/-- A value with at most so many brackets around each other. -/
def readValue : Nat → List Char → Scan Value
  | 0, s => (Scalar.read s).map fun (v, after) => (.scalar v, after)
  | room + 1, s =>
    match s with
    | '[' :: rest =>
      (readItems (readValue room) rest).map fun (items, after) => (.array items, after)
    | '{' :: rest => readInline (readValue room) rest
    | _ => (Scalar.read s).map fun (v, after) => (.scalar v, after)

/-- A statement together with the end of its line. -/
def readStatement (s : List Char) : Scan Statement :=
  match s with
  | '[' :: '[' :: rest =>
    (readKey depthLimit rest).bind fun (key, rest) =>
      match rest with
      | ']' :: ']' :: rest => (endLine false rest).map fun after => (.element key, after)
      | _ => none
  | '[' :: rest =>
    (readKey depthLimit rest).bind fun (key, rest) =>
      match rest with
      | ']' :: rest => (endLine false rest).map fun after => (.header key, after)
      | _ => none
  | _ =>
    (readPair (readValue depthLimit) s).bind fun ((key, v), rest) =>
      (endLine false rest).map fun after => (.assign key v, after)

def readStatements (s : List Char) : Option (List Statement) :=
  match skip false s with
  | [] => some []
  | front =>
    (readStatement front).bind fun (statement, rest) =>
      if rest.length < s.length then (readStatements rest).map (statement :: ·) else none
termination_by s.length

/-- A mark at the very front that tells the encoding is no text. -/
def dropMark (s : List Char) : List Char :=
  match s with
  | '\ufeff' :: rest => rest
  | _ => s

/-- The table that a document describes. -/
def read? (text : String) : Option (List (String × Value)) :=
  (readStatements (dropMark text.toList)).bind tableOf?

/-- A key is quoted only if it has to be. -/
def nameText (name : String) : List Char :=
  let s := name.toList
  let coded := s.any fun c => !isPrintable c
  if !s.isEmpty && s.all isBare then s
  else if !coded && !s.contains '\\' && !s.contains '"' then QuoteStyle.basic.write s
  else if !coded && !s.contains '\'' then QuoteStyle.literal.write s
  else QuoteStyle.basic.write s

/-- A table with a header and scalars in it. -/
abbrev Section := String × List (String × Scalar)

def assignmentText (entry : String × Scalar) : List Char :=
  nameText entry.1 ++ [' ', '=', ' '] ++ entry.2.text ++ ['\n']

def sectionText (s : Section) : List Char :=
  '[' :: nameText s.1 ++ [']', '\n'] ++ s.2.flatMap assignmentText

/-- A document of sections, with an empty line between them. -/
def sectionsText (sections : List Section) : List Char :=
  ['\n'].intercalate (sections.map sectionText)

/-- A document is written if all that stands in it can be. -/
def sectionsText? (sections : List Section) : Option (List Char) :=
  if sections.all (·.2.all (·.2.fits)) then some (sectionsText sections) else none

example : (read? "a.b = 1\n[a.c]\n").isSome = true := by decide +kernel
example : (read? "[a.b]\n[a]\n").isSome = true := by decide +kernel
example : (read? "[a]\nb.c = 1\n[a.b]\n").isNone = true := by decide +kernel
example : (read? "a = [1, # one\n 2,]\nb = \x7b c = 'x', d.e = [] \x7d\n").isSome = true := by
  decide +kernel
example : (read? "a = \x7b b = 1, \x7d").isNone = true := by decide +kernel

end Outlay.Toml
