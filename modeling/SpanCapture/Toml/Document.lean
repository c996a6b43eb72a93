import SpanCapture.Toml.Table

/-! Option (configuration × List Char) text: values, lines and the document. -/
namespace SpanCapture.Toml

mutual

/-- A value. The fuel bounds the calls, `depth` counts the arrays and braces around. -/
def value (fuel depth : Nat) (cs : List Char) : Option (Node × List Char) :=
  match fuel with
  | 0 => none
  | fuel + 1 =>
    match cs with
    | [] => none
    | '"' :: _ => (string cs).map fun (s, rest) => (.text s, rest)
    | '\'' :: _ => (string cs).map fun (s, rest) => (.text s, rest)
    | 't' :: 'r' :: 'u' :: 'e' :: rest => some (.bool true, rest)
    | 'f' :: 'a' :: 'l' :: 's' :: 'e' :: rest => some (.bool false, rest)
    | '[' :: rest =>
      if depth + 1 < nestingLimit then
        (items fuel (depth + 1) rest).map fun (xs, rest) => (.array xs, rest)
      else none
    | '{' :: rest =>
      if depth + 1 < nestingLimit then
        match skipBlanks rest with
        | '}' :: rest => some (.table .braces [], rest)
        | _ => (pairs fuel (depth + 1) [] rest).map fun (es, rest) => (.table .braces es, rest)
      else none
    | _ =>
      match moment cs with
      | some rest => some (.moment, rest)
      | none =>
        match float cs with
        | some (x, rest) => some (.float x, rest)
        | none => (integer cs).map fun (i, rest) => (.integer i, rest)

/-- The items of an array up to its closing bracket. A comma may stand before it. -/
def items (fuel depth : Nat) (cs : List Char) : Option (List Node × List Char) :=
  match fuel with
  | 0 => none
  | fuel + 1 => do
    match ← skipLines (cs.length + 1) cs with
    | ']' :: rest => some ([], rest)
    | rest => do
      let (x, rest) ← value fuel depth rest
      match ← skipLines (rest.length + 1) rest with
      | ']' :: rest => some ([x], rest)
      | ',' :: rest => do
        let (xs, rest) ← items fuel depth rest
        some (x :: xs, rest)
      | _ => none

/-- The pairs of a table in braces up to its closing brace, at least one. -/
def pairs (fuel depth : Nat) (entries : Entries) (cs : List Char) : Option (Entries × List Char) :=
  match fuel with
  | 0 => none
  | fuel + 1 => do
    let (parts, rest) ← key cs
    let (x, rest) ← value fuel depth (skipBlanks (← expect '=' rest))
    let (path, name) := splitKey parts
    let entries ← store path name x .braces entries
    match skipBlanks rest with
    | '}' :: rest => some (entries, rest)
    | ',' :: rest => pairs fuel depth entries rest
    | _ => none

end

/-- A document while it is read: the outermost table, and the key of the header whose table
the lines go to. -/
structure Reader where
  root : Entries := []
  current : List String := []

def keyLine (reader : Reader) (cs : List Char) : Option (Reader × List Char) := do
  let (parts, rest) ← key cs
  let rest := skipBlanks (← expect '=' rest)
  let (x, rest) ← value (2 * rest.length + 2) 0 rest
  let rest ← lineEnd? rest
  let (path, name) := splitKey parts
  let root ← along .byHeader reader.current (store path name x) .header reader.root
  some ({ reader with root }, rest)

/-- A header line after its opening brackets, one or two. -/
def headerLine (reader : Reader) (repeated : Bool) (cs : List Char) :
    Option (Reader × List Char) := do
  let (parts, rest) ← key cs
  let rest ← expect ']' rest
  let rest ← if repeated then expect ']' rest else some rest
  let rest ← lineEnd? rest
  let (path, name) := splitKey parts
  let opening := if repeated then openNext name else openTable name
  let root ← along .byHeader path opening .header reader.root
  some ({ root, current := parts }, rest)

/-- All lines. The fuel is the number of characters. -/
def lines (fuel : Nat) (reader : Reader) (cs : List Char) : Option Reader :=
  match fuel with
  | 0 => some reader
  | fuel + 1 =>
    match skipBlanks cs with
    | [] => some reader
    | '#' :: rest => do lines fuel reader (← lineEnd? ('#' :: rest))
    | '\n' :: rest => lines fuel reader rest
    | '\r' :: rest => do lines fuel reader (← lineBreak? ('\r' :: rest))
    | '[' :: '[' :: rest => do
      let (reader, rest) ← headerLine reader true rest
      lines fuel reader rest
    | '[' :: rest => do
      let (reader, rest) ← headerLine reader false rest
      lines fuel reader rest
    | rest => do
      let (reader, rest) ← keyLine reader rest
      lines fuel reader rest

/-- The outermost table of a text. A mark of the byte order in front is left out. -/
def parse? (text : String) : Option Entries :=
  let cs := match text.toList with
    | '\uFEFF' :: rest => rest
    | cs => cs
  (lines (cs.length + 1) {} cs).map (·.root)

end SpanCapture.Toml
