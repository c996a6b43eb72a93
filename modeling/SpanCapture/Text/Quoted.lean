import SpanCapture.Text.Shapeless

/-! Strings in double quotes for a reader: quotes, backslashes and characters without a
shape of their own are escaped, everything else stands as it is. -/
namespace SpanCapture.Text

/-- How a character stands inside the quotes. One without a shape is written by its
hexadecimal number, unless it has an escape of its own. -/
def debugChar (c : Char) : List Char :=
  if c = '"' then ['\\', '"']
  else if c = '\\' then ['\\', '\\']
  else if c = '\n' then ['\\', 'n']
  else if c = '\r' then ['\\', 'r']
  else if c = '\t' then ['\\', 't']
  else if c = '\x00' then ['\\', '0']
  else if isShapeless c then
    ['\\', 'u', '{'] ++ Nat.toDigits 16 c.toNat ++ ['}']
  else [c]

def quoted (s : String) : String := "\"" ++ String.ofList (s.toList.flatMap debugChar) ++ "\""

def quotedList (items : List String) : String := "[" ++ ", ".intercalate (items.map quoted) ++ "]"

end SpanCapture.Text
