import Outlay.Text.Visible

/-!
Texts between double quotes, as messages show them: quotes and backslashes are escaped, and so is
every character that is not seen on its own.
-/

namespace Outlay.Text

/-- Hexadecimal digits without leading zeros. -/
def hexDigits (n : Nat) : String := String.ofList (Nat.toDigits 16 n)

def escaped (c : Char) : String :=
  match c with
  | '"' => "\\\""
  | '\\' => "\\\\"
  | '\n' => "\\n"
  | '\r' => "\\r"
  | '\t' => "\\t"
  | '\x00' => "\\0"
  | c => if isVisible c then c.toString else "\\u\x7b" ++ hexDigits c.toNat ++ "\x7d"

def quoted (s : String) : String :=
  "\"" ++ String.join (s.toList.map escaped) ++ "\""

example : quoted "a \"b\"\n\u200b" = "\"a \\\"b\\\"\\n\\u\x7b200b\x7d\"" := by decide +kernel

end Outlay.Text
