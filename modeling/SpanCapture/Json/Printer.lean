import SpanCapture.Json.Basic
import SpanCapture.Text.Written

/-! The compact text of JSON documents: no blanks, no line breaks, strings with the
shortest escape each character has, floating numbers with the fewest digits that read
back. Pieces are `Written`, since the values of a trace may have no written form. -/
namespace SpanCapture.Json

/-- Floating numbers stand without an exponent from 0.00001 up to sixteen digits, always
with a decimal point; other exponents carry a sign. -/
def numberLayout : NumberLayout where
  plainFrom := -5
  plainTo := 15
  wholeSuffix := ".0"
  positiveMark := "+"

def hexDigit (n : Nat) : Char := Nat.digitChar n

/-- How a character stands inside a string. Control characters without a letter of their
own are written by number. -/
def escapeChar (c : Char) : List Char :=
  if c = '"' then ['\\', '"']
  else if c = '\\' then ['\\', '\\']
  else if c = '\n' then ['\\', 'n']
  else if c = '\r' then ['\\', 'r']
  else if c = '\t' then ['\\', 't']
  else if c = '\x08' then ['\\', 'b']
  else if c = '\x0c' then ['\\', 'f']
  else if c.toNat < 32 then
    ['\\', 'u', '0', '0', hexDigit (c.toNat / 16), hexDigit (c.toNat % 16)]
  else [c]

def quote (s : String) : String :=
  "\"" ++ String.ofList (s.toList.flatMap escapeChar) ++ "\""

/-- The text of a floating number; JSON has none for what is not finite. -/
def floatText (x : Binary64) : String :=
  if x.isFinite then numberLayout.finiteText x else "null"

def field (name : String) (value : Written) : Written :=
  Written.ofString (quote name ++ ":") ++ value

def arrayText (items : List Written) : Written :=
  Written.ofString "[" ++ Written.separated "," items ++ Written.ofString "]"

def objectText (fields : List (String × Written)) : Written :=
  Written.ofString "\x7b" ++ Written.separated "," (fields.map fun f => field f.1 f.2) ++
    Written.ofString "\x7d"

mutual

def print : Json → Written
  | .null => Written.ofString "null"
  | .bool b => Written.ofString (if b then "true" else "false")
  | .int i => Written.ofString (toString i)
  | .float x => Written.ofString (floatText x)
  | .text s => Written.ofString (quote s)
  | .array items => arrayText (printItems items)
  | .object fields => objectText (printFields fields)

def printItems : List Json → List Written
  | [] => []
  | item :: rest => print item :: printItems rest

def printFields : List (String × Json) → List (String × Written)
  | [] => []
  | (name, value) :: rest => (name, print value) :: printFields rest

end

end SpanCapture.Json
