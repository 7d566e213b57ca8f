import MailScript.Text.Hex
import MailScript.Text.Printable

/-! # Quoted texts

A quoted text stands between single quotes, or between double quotes when it holds a single quote
and no double quote. Inside, the backslash, the surrounding quote and everything that is not
printable are escaped. -/

namespace MailScript.Text

/-- The quote that surrounds a text. -/
def quoteFor (text : List Char) : Char :=
  if text.contains '\'' && !text.contains '"' then '"' else '\''

/-- One character of a quoted text. -/
def escapeChar (quote c : Char) : List Char :=
  let code := c.toNat
  if c = quote || c = '\\' then ['\\', c]
  else if c = '\t' then ['\\', 't']
  else if c = '\n' then ['\\', 'n']
  else if c = '\r' then ['\\', 'r']
  else if isPrintable code then [c]
  else if code < 256 then '\\' :: 'x' :: hexDigits 2 code
  else if code < 65536 then '\\' :: 'u' :: hexDigits 4 code
  else '\\' :: 'U' :: hexDigits 8 code

/-- A text between quotes. -/
def quoted (text : String) : String :=
  let chars := text.toList
  let quote := quoteFor chars
  String.ofList (quote :: chars.flatMap (escapeChar quote) ++ [quote])

example : quoted "a'b" = "\"a'b\"" := by decide +kernel
example : quoted "a\\\n" = "'a\\\\\\n'" := by decide +kernel

end MailScript.Text
