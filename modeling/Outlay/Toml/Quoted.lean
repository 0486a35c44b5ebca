/-!
Strings of TOML between quotes: basic ones, whose escapes stand for other characters, and literal
ones, where every character stands for itself. Three quotes instead of one let the text run over
several lines.
-/

namespace Outlay.Toml

/-- All characters but the controls of ASCII; tabs are allowed. -/
def isPrintable (c : Char) : Bool := c == '\t' || (0x20 ≤ c.toNat && c.toNat != 0x7F)

def isSpace (c : Char) : Bool := c == ' ' || c == '\t'

/-- What follows a line break, if one is at the front. -/
def afterBreak? (s : List Char) : Option (List Char) :=
  match s with
  | '\n' :: rest => some rest
  | '\r' :: '\n' :: rest => some rest
  | _ => none

def hexDigit? (c : Char) : Option Nat :=
  if '0' ≤ c ∧ c ≤ '9' then some (c.toNat - 48)
  else if 'a' ≤ c ∧ c ≤ 'f' then some (c.toNat - 87)
  else if 'A' ≤ c ∧ c ≤ 'F' then some (c.toNat - 55)
  else none

/-- The number that hexadecimal digits write. -/
def hexNumber? (digits : List Char) : Option Nat :=
  digits.foldlM (fun n c => (hexDigit? c).map (n * 16 + ·)) 0

/-- The character with a given code; surrogates are none. -/
def charOf? (digits : List Char) : Option Char := do
  let n ← hexNumber? digits
  if h : n.isValidChar then some (Char.ofNatAux n h) else none

/-- The character that a backslash and this one stand for. -/
def shortEscape? (c : Char) : Option Char :=
  match c with
  | 'b' => some '\x08'
  | 't' => some '\t'
  | 'n' => some '\n'
  | 'f' => some '\x0c'
  | 'r' => some '\r'
  | '"' => some '"'
  | '\\' => some '\\'
  | _ => none

/-- What was read from the front of a text, and what follows it. -/
abbrev Scan (α : Type) := Option (α × List Char)

/-- Puts a character in front of what was read behind it. -/
def prepend (c : Option Char) (s : Scan (List Char)) : Scan (List Char) :=
  c.bind fun c => s.map fun (text, after) => (c :: text, after)

/-- The rest of a basic string behind its opening quote. -/
def readBasic : List Char → Scan (List Char)
  | [] => none
  | '"' :: rest => some ([], rest)
  | '\\' :: 'u' :: a :: b :: c :: d :: rest =>
    prepend (charOf? [a, b, c, d]) (readBasic rest)
  | '\\' :: 'U' :: a :: b :: c :: d :: e :: f :: g :: h :: rest =>
    prepend (charOf? [a, b, c, d, e, f, g, h]) (readBasic rest)
  | '\\' :: c :: rest => prepend (shortEscape? c) (readBasic rest)
  | c :: rest => if isPrintable c then prepend c (readBasic rest) else none

def readLiteral : List Char → Scan (List Char)
  | [] => none
  | '\'' :: rest => some ([], rest)
  | c :: rest => if isPrintable c then prepend c (readLiteral rest) else none

/-- Up to two quotes before the three that end a text belong to the text. -/
def closing (quote : Char) (s : List Char) : List Char × List Char :=
  let quotes := (s.take 2).takeWhile (· == quote)
  (quotes, s.drop quotes.length)

/-- The rest of a long basic string. Behind a backslash at the end of a line, blanks and line
breaks are passed over; `joining` tells that this goes on. -/
def readLongBasic (joining : Bool) : List Char → Scan (List Char)
  | [] => none
  | '"' :: '"' :: '"' :: rest => some (closing '"' rest)
  | '\r' :: '\n' :: rest =>
    if joining then readLongBasic true rest else prepend '\n' (readLongBasic false rest)
  | '\\' :: 'u' :: a :: b :: c :: d :: rest =>
    prepend (charOf? [a, b, c, d]) (readLongBasic false rest)
  | '\\' :: 'U' :: a :: b :: c :: d :: e :: f :: g :: h :: rest =>
    prepend (charOf? [a, b, c, d, e, f, g, h]) (readLongBasic false rest)
  | '\\' :: c :: rest =>
    if (afterBreak? ((c :: rest).dropWhile isSpace)).isSome then readLongBasic true (c :: rest)
    else prepend (shortEscape? c) (readLongBasic false rest)
  | c :: rest =>
    if joining && (isSpace c || c == '\n') then readLongBasic true rest
    else if c == '\n' || (isPrintable c && c != '\\') then prepend c (readLongBasic false rest)
    else none

def readLongLiteral : List Char → Scan (List Char)
  | [] => none
  | '\'' :: '\'' :: '\'' :: rest => some (closing '\'' rest)
  | '\r' :: '\n' :: rest => prepend '\n' (readLongLiteral rest)
  | c :: rest =>
    if c == '\n' || isPrintable c then prepend c (readLongLiteral rest) else none

/-- A line break right behind the opening quotes of a long string is left out. -/
def dropBreak (s : List Char) : List Char := (afterBreak? s).getD s

/-- A string of any of the four kinds. -/
def readQuoted (s : List Char) : Scan (List Char) :=
  match s with
  | '"' :: '"' :: '"' :: rest => readLongBasic false (dropBreak rest)
  | '"' :: rest => readBasic rest
  | '\'' :: '\'' :: '\'' :: rest => readLongLiteral (dropBreak rest)
  | '\'' :: rest => readLiteral rest
  | _ => none

/-! Writing takes the plainest kind that can hold the text. -/

inductive QuoteStyle where
  | basic
  | literal
  | longBasic
  | longLiteral
  deriving DecidableEq, Repr

/-- Controls that stand in no string. -/
def needsCode (c : Char) : Bool := c != '\n' && !isPrintable c

/-- Three quotes stand side by side. -/
def hasTriple (quote : Char) : List Char → Bool
  | [] => false
  | c :: rest => [quote, quote, quote].isPrefixOf (c :: rest) || hasTriple quote rest

def QuoteStyle.of (s : List Char) : QuoteStyle :=
  let coded := s.any needsCode
  let escaped := coded || s.contains '\\'
  let broken := s.contains '\n'
  if !escaped && !broken && !s.contains '"' then basic
  else if !coded && !broken && !s.contains '\'' then literal
  else if !escaped && !hasTriple '"' s then longBasic
  else if !coded && !hasTriple '\'' s then longLiteral
  else if broken then longBasic
  else basic

/-- Capital hexadecimal digits. -/
def capitalDigit (n : Nat) : Char := (Nat.digitChar n).toUpper

def escape (c : Char) : List Char :=
  match c with
  | '\x08' => ['\\', 'b']
  | '\t' => ['\\', 't']
  | '\n' => ['\\', 'n']
  | '\x0c' => ['\\', 'f']
  | '\r' => ['\\', 'r']
  | '"' => ['\\', '"']
  | '\\' => ['\\', '\\']
  | c =>
    if needsCode c then
      ['\\', 'u', '0', '0', capitalDigit (c.toNat / 16), capitalDigit (c.toNat % 16)]
    else [c]

/-- The text of a long basic string. Line breaks stay, and of the quotes side by side every third is
escaped; `quotes` have just been written. -/
def escapeLong (quotes : Nat) : List Char → List Char
  | [] => []
  | '"' :: rest =>
    if quotes = 2 then '\\' :: '"' :: escapeLong 0 rest else '"' :: escapeLong (quotes + 1) rest
  | '\n' :: rest => '\n' :: escapeLong 0 rest
  | c :: rest => escape c ++ escapeLong 0 rest

/-- A text of several lines starts on a line of its own. -/
def leadingBreak (s : List Char) : List Char := if s.contains '\n' then ['\n'] else []

def QuoteStyle.write (style : QuoteStyle) (s : List Char) : List Char :=
  match style with
  | basic => '"' :: s.flatMap escape ++ ['"']
  | literal => '\'' :: s ++ ['\'']
  | longBasic => ['"', '"', '"'] ++ leadingBreak s ++ escapeLong 0 s ++ ['"', '"', '"']
  | longLiteral => ['\'', '\'', '\''] ++ leadingBreak s ++ s ++ ['\'', '\'', '\'']

def quotedText (s : List Char) : List Char := (QuoteStyle.of s).write s

example : quotedText "a\tb".toList = "\"a\\tb\"".toList := by decide +kernel
example : quotedText "a\\b".toList = "'a\\b'".toList := by decide +kernel
example : quotedText "it's \"x\"".toList = "\"\"\"it's \"x\"\"\"\"".toList := by decide +kernel
example : quotedText "'\\\n".toList = "'''\n'\\\n'''".toList := by decide +kernel
example : quotedText "\x07".toList = "\"\\u0007\"".toList := by decide +kernel
example : readQuoted "\"\"\"\\ \r\n  a\"\"\"\"\",".toList = some ("a\"\"".toList, [',']) := by
  decide +kernel
example : readQuoted "'''\r\na'b\r\n'''".toList = some ("a'b\n".toList, []) := by decide +kernel

end Outlay.Toml
