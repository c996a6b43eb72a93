import SpanCapture.Json.Parser

/-! Characters, blanks and strings of configuration text. A reader takes the characters
still to come and hands back what it read with the characters after it, or nothing if
the text is malformed. -/
namespace SpanCapture.Toml

def isBlank (c : Char) : Bool := c = ' ' || c = '\t'

/-- Characters that may stand in comments and, but for quotes and backslashes, in strings. -/
def isPlain (c : Char) : Bool := c = '\t' || (32 ≤ c.toNat && c.toNat != 127)

def skipBlanks (cs : List Char) : List Char := cs.dropWhile isBlank

def lineBreak? : List Char → Option (List Char)
  | '\n' :: rest => some rest
  | '\r' :: '\n' :: rest => some rest
  | _ => none

def skipComment (cs : List Char) : List Char :=
  match cs with
  | '#' :: rest => rest.dropWhile isPlain
  | _ => cs

/-- What may follow on the line of a key or a header: blanks, a comment, the end. -/
def lineEnd? (cs : List Char) : Option (List Char) :=
  match skipComment (skipBlanks cs) with
  | [] => some []
  | rest => lineBreak? rest

/-- Blanks, comments and line breaks inside an array. A comment there ends with its line.
The fuel is the number of characters. -/
def skipLines (fuel : Nat) (cs : List Char) : Option (List Char) :=
  match fuel with
  | 0 => some cs
  | fuel + 1 =>
    match skipBlanks cs with
    | '#' :: rest => do skipLines fuel (← lineBreak? (rest.dropWhile isPlain))
    | '\n' :: rest => skipLines fuel rest
    | '\r' :: rest => do skipLines fuel (← lineBreak? ('\r' :: rest))
    | rest => some rest

/-- A character by its hexadecimal number, of exactly so many digits. -/
def numbered (digits : Nat) (cs : List Char) : Option (Char × List Char) := do
  let hex ← (cs.take digits).mapM Json.hexValue?
  let code := hex.foldl (fun n d => n * 16 + d) 0
  if h : hex.length = digits ∧ code.isValidChar then
    some (Char.ofNatAux code h.2, cs.drop digits)
  else none

def escaped : List Char → Option (Char × List Char)
  | 'b' :: rest => some ('\x08', rest)
  | 'f' :: rest => some ('\x0c', rest)
  | 'n' :: rest => some ('\n', rest)
  | 'r' :: rest => some ('\r', rest)
  | 't' :: rest => some ('\t', rest)
  | '"' :: rest => some ('"', rest)
  | '\\' :: rest => some ('\\', rest)
  | 'u' :: rest => numbered 4 rest
  | 'U' :: rest => numbered 8 rest
  | _ => none

/-- The rest of a string on one line, after its opening quote. The fuel is the number of
characters. -/
def basicTail (fuel : Nat) (read : List Char) (cs : List Char) : Option (String × List Char) :=
  match fuel, cs with
  | fuel + 1, '"' :: rest => let _ := fuel; some (String.ofList read.reverse, rest)
  | fuel + 1, '\\' :: rest => do
    let (c, rest) ← escaped rest
    basicTail fuel (c :: read) rest
  | fuel + 1, c :: rest => if isPlain c then basicTail fuel (c :: read) rest else none
  | _, _ => none

def literalTail (cs : List Char) : Option (String × List Char) :=
  let body := cs.takeWhile fun c => isPlain c && c != '\''
  match cs.dropWhile fun c => isPlain c && c != '\'' with
  | '\'' :: rest => some (String.ofList body, rest)
  | _ => none

/-- How a run of quotes inside a string of several lines is taken: three close the string,
and up to two more before them belong to it. Gives the quotes that belong to the string,
whether it ends, and the characters after. -/
def quoteRun (quote : Char) (cs : List Char) : Nat × Bool × List Char :=
  let run := (cs.takeWhile (· == quote)).length
  if run ≤ 2 then (run, false, cs.drop run)
  else
    let kept := min (run - 3) 2
    (kept, true, cs.drop (kept + 3))

/-- The characters after blanks and line breaks. A carriage return counts as part of a line
break only in front of a line feed. -/
def skipBlankLines : List Char → List Char
  | '\n' :: rest => skipBlankLines rest
  | '\r' :: '\n' :: rest => skipBlankLines rest
  | c :: rest => if isBlank c then skipBlankLines rest else c :: rest
  | [] => []

/-- A backslash that ends a line takes the blanks and line breaks after it away. -/
def continued? (cs : List Char) : Option (List Char) :=
  (lineBreak? (skipBlanks cs)).map skipBlankLines

/-- The rest of a string of several lines, after its opening quotes. A line break counts as
one character, however it is written. The fuel is the number of characters. -/
def longTail (quote : Char) (escapes : Bool) (fuel : Nat) (read : List Char) (cs : List Char) :
    Option (String × List Char) :=
  match fuel with
  | 0 => none
  | fuel + 1 =>
    match cs with
    | [] => none
    | '\n' :: rest => longTail quote escapes fuel ('\n' :: read) rest
    | '\r' :: '\n' :: rest => longTail quote escapes fuel ('\n' :: read) rest
    | c :: rest =>
      if c = quote then
        let (kept, closed, rest) := quoteRun quote cs
        let read := List.replicate kept quote ++ read
        if closed then some (String.ofList read.reverse, rest)
        else longTail quote escapes fuel read rest
      else if c = '\\' ∧ escapes then
        match continued? rest with
        | some rest => longTail quote escapes fuel read rest
        | none => do
          let (c, rest) ← escaped rest
          longTail quote escapes fuel (c :: read) rest
      else if isPlain c then longTail quote escapes fuel (c :: read) rest
      else none

/-- A line break right after the opening quotes is not part of the string. -/
def afterOpening (cs : List Char) : List Char := (lineBreak? cs).getD cs

def string : List Char → Option (String × List Char)
  | '"' :: '"' :: '"' :: rest => longTail '"' true (rest.length + 1) [] (afterOpening rest)
  | '\'' :: '\'' :: '\'' :: rest => longTail '\'' false (rest.length + 1) [] (afterOpening rest)
  | '"' :: rest => basicTail (rest.length + 1) [] rest
  | '\'' :: rest => literalTail rest
  | _ => none

def isKeyChar (c : Char) : Bool := c.isAlphanum || c = '-' || c = '_'

def keyPart : List Char → Option (String × List Char)
  | '"' :: rest => basicTail (rest.length + 1) [] rest
  | '\'' :: rest => literalTail rest
  | cs =>
    let name := cs.takeWhile isKeyChar
    if name.isEmpty then none else some (String.ofList name, cs.dropWhile isKeyChar)

/-- Parts of a key between points, blanks around each allowed. The fuel is the number of
characters. -/
def keyParts (fuel : Nat) (cs : List Char) : Option (List String × List Char) :=
  match fuel with
  | 0 => none
  | fuel + 1 => do
    let (part, rest) ← keyPart (skipBlanks cs)
    match skipBlanks rest with
    | '.' :: rest => do
      let (parts, rest) ← keyParts fuel rest
      some (part :: parts, rest)
    | rest => some ([part], rest)

/-- How deep keys, arrays and inline tables may nest. -/
def nestingLimit : Nat := 80

def key (cs : List Char) : Option (List String × List Char) := do
  let (parts, rest) ← keyParts (cs.length + 1) cs
  if parts.length < nestingLimit then some (parts, rest) else none

end SpanCapture.Toml
