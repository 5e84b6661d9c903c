import DiagramStudio.Text.Numeral
import DiagramStudio.Text.Printable

/-!
# Quoted texts

The quoted form of a text in diagnostics: double quotes around it, backslash escapes for the
quote, the backslash, the line ends, the tab and the null character, and a braced hexadecimal
code point for every other character that cannot be shown.
-/

namespace DiagramStudio.Text

/-- How one character is written inside a quoted text. -/
def quoteChar (c : Char) : Text :=
  if c = '\x00' then ['\x5c', '0']
  else if c = '\t' then ['\x5c', 't']
  else if c = '\n' then ['\x5c', 'n']
  else if c = '\r' then ['\x5c', 'r']
  else if c = '\x22' then ['\x5c', '\x22']
  else if c = '\x5c' then ['\x5c', '\x5c']
  else if isPrintable c then [c]
  else ['\x5c', 'u', '\x7b'] ++ hexDigits c.toNat ++ ['\x7d']

/-- The text in double quotes. -/
def quote (t : Text) : Text := ['\x22'] ++ t.flatMap quoteChar ++ ['\x22']

end DiagramStudio.Text
