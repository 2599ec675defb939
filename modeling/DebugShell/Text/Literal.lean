import DebugShell.Text.Numeral
import DebugShell.Text.Visible

/-!
# Literals

Texts in double quotes, with escapes for quotes, backslashes and everything that does not show.
-/

namespace DebugShell.Text

/-- What stands for a character in a literal. -/
def literalChar (c : Char) : String :=
  if c = '\x00' then "\\0"
  else if c = '\t' then "\\t"
  else if c = '\r' then "\\r"
  else if c = '\n' then "\\n"
  else if c = '"' then "\\\""
  else if c = '\\' then "\\\\"
  else if isVisible c then c.toString
  else "\\u\x7b" ++ String.ofList (Nat.toDigits 16 c.toNat) ++ "\x7d"

/-- The literal of a text. -/
def literal (text : String) : String :=
  "\"" ++ String.join (text.toList.map literalChar) ++ "\""

end DebugShell.Text
