import SpanCapture.Json.Basic

/-! Reading JSON text, strictly. A whole number is an integer if it lies in the range of
signed or unsigned sixty-four bit words; every other number is floating. A floating
number is read from as many leading digits as fit an unsigned word and then scaled by a
power of ten, each step rounded; one that grows beyond the finite numbers is refused.
Containers nest at most 127 deep. Of two fields with one name the later counts. -/
namespace SpanCapture.Json

def skipBlanks (cs : List Char) : List Char :=
  cs.dropWhile fun c => c = ' ' || c = '\n' || c = '\t' || c = '\r'

def digitValue (c : Char) : Nat := c.toNat - '0'.toNat

def hexValue? (c : Char) : Option Nat :=
  if c.isDigit then some (digitValue c)
  else if 'a' ≤ c ∧ c ≤ 'f' then some (c.toNat - 'a'.toNat + 10)
  else if 'A' ≤ c ∧ c ≤ 'F' then some (c.toNat - 'A'.toNat + 10)
  else none

def hexFour : List Char → Option (Nat × List Char)
  | a :: b :: c :: d :: rest => do
    let a ← hexValue? a
    let b ← hexValue? b
    let c ← hexValue? c
    let d ← hexValue? d
    some (((a * 16 + b) * 16 + c) * 16 + d, rest)
  | _ => none

/-- The character of an escape by number; characters beyond sixteen bits come as a pair of
units, and half a pair is refused. -/
def escapedUnit (cs : List Char) : Option (Char × List Char) := do
  let (unit, rest) ← hexFour cs
  if 0xDC00 ≤ unit ∧ unit ≤ 0xDFFF then none
  else if 0xD800 ≤ unit ∧ unit ≤ 0xDBFF then
    match rest with
    | '\\' :: 'u' :: rest => do
      let (low, rest) ← hexFour rest
      if 0xDC00 ≤ low ∧ low ≤ 0xDFFF then
        some (Char.ofNat (0x10000 + (unit - 0xD800) * 0x400 + (low - 0xDC00)), rest)
      else none
    | _ => none
  else some (Char.ofNat unit, rest)

def escapedLetter? : Char → Option Char
  | '"' => some '"'
  | '\\' => some '\\'
  | '/' => some '/'
  | 'b' => some '\x08'
  | 'f' => some '\x0c'
  | 'n' => some '\n'
  | 'r' => some '\r'
  | 't' => some '\t'
  | _ => none

/-- The rest of a string after its opening quote. The fuel is the number of characters. -/
def stringTail (fuel : Nat) (read : List Char) (cs : List Char) : Option (String × List Char) :=
  match fuel with
  | 0 => none
  | fuel + 1 =>
    match cs with
    | [] => none
    | '"' :: rest => some (String.ofList read.reverse, rest)
    | '\\' :: 'u' :: rest => do
      let (c, rest) ← escapedUnit rest
      stringTail fuel (c :: read) rest
    | '\\' :: letter :: rest => do
      let c ← escapedLetter? letter
      stringTail fuel (c :: read) rest
    | c :: rest => if c.toNat < 32 ∨ c = '\\' then none else stringTail fuel (c :: read) rest

def maxUnsigned : Nat := twoTo 64 - 1

/-- Takes digits into a significand as long as it stays an unsigned word: the significand,
how many digits it took, and how many are left. -/
def absorb (significand : Nat) : List Char → Nat × Nat × Nat
  | [] => (significand, 0, 0)
  | c :: rest =>
    let next := significand * 10 + digitValue c
    if maxUnsigned < next then (significand, 0, rest.length + 1)
    else
      let (s, taken, left) := absorb next rest
      (s, taken + 1, left)

/-- A number scaled by a power of ten, each step rounded; refused when it grows beyond the
finite numbers. Powers below the smallest one at hand are taken in several steps. -/
def scale (fuel : Nat) (x : Binary64) (exponent : Int) : Option Binary64 :=
  if exponent.natAbs ≤ 308 then
    let power := Binary64.ofNat (tenTo exponent.natAbs)
    if 0 ≤ exponent then
      let y := x.mul power
      if y.isInfinite then none else some y
    else some (x.div power)
  else if x.magnitude = 0 then some x
  else if 0 ≤ exponent then none
  else
    match fuel with
    | 0 => some x
    | fuel + 1 => scale fuel (x.div (Binary64.ofNat (tenTo 308))) (exponent + 308)

def floating (negative : Bool) (significand : Nat) (exponent : Int) : Option Binary64 := do
  let x ← scale 4 (Binary64.ofNat significand) exponent
  some (if negative then x.neg else x)

/-- Exponents are held in signed thirty-two bit words and stick to their ends. -/
def clampExponent (i : Int) : Int := max (-(twoTo 31 : Int)) (min (twoTo 31 - 1) i)

/-- The exponent part after its letter. An exponent too large for its word makes zero of
what shrinks or is zero, and refuses the rest. -/
def exponentPart (negative : Bool) (significand : Nat) (start : Int) (cs : List Char) :
    Option (Binary64 × List Char) :=
  let (shrinks, cs) := match cs with
    | '+' :: rest => (false, rest)
    | '-' :: rest => (true, rest)
    | _ => (false, cs)
  let digits := cs.takeWhile Char.isDigit
  let rest := cs.dropWhile Char.isDigit
  if digits.isEmpty then none
  else
    let exponent := digits.foldl (fun n c => n * 10 + digitValue c) 0
    if twoTo 31 ≤ exponent then
      if significand ≠ 0 ∧ !shrinks then none
      else some (Binary64.ofMagnitude negative 0, rest)
    else do
      let total := if shrinks then start - exponent else start + exponent
      let x ← floating negative significand (clampExponent total)
      some (x, rest)

def number (negative : Bool) (cs : List Char) : Option (Json × List Char) :=
  let digits := cs.takeWhile Char.isDigit
  let rest := cs.dropWhile Char.isDigit
  if digits.isEmpty || (digits.head? == some '0' && 1 < digits.length) then none
  else
    let (significand, _, left) := absorb 0 digits
    let float (r : Option (Binary64 × List Char)) : Option (Json × List Char) :=
      r.map fun (x, rest) => (.float x, rest)
    match rest with
    | '.' :: rest =>
      let places := rest.takeWhile Char.isDigit
      let rest := rest.dropWhile Char.isDigit
      if places.isEmpty then none
      else
        let (significand, taken, _) := absorb significand places
        let exponent : Int := (left : Int) - taken
        match rest with
        | 'e' :: rest => float (exponentPart negative significand exponent rest)
        | 'E' :: rest => float (exponentPart negative significand exponent rest)
        | _ => (floating negative significand exponent).map fun x => (.float x, rest)
    | 'e' :: rest => float (exponentPart negative significand left rest)
    | 'E' :: rest => float (exponentPart negative significand left rest)
    | _ =>
      if left ≠ 0 then (floating negative significand left).map fun x => (.float x, rest)
      else if !negative then some (.int significand, rest)
      else if significand = 0 ∨ twoTo 63 < significand then
        some (.float (Binary64.ofNat significand).neg, rest)
      else some (.int (-significand), rest)

mutual

/-- One value. The fuel bounds the calls, `depth` the containers that may still open. -/
def value (fuel depth : Nat) (cs : List Char) : Option (Json × List Char) :=
  match fuel with
  | 0 => none
  | fuel + 1 =>
    match skipBlanks cs with
    | 'n' :: 'u' :: 'l' :: 'l' :: rest => some (.null, rest)
    | 't' :: 'r' :: 'u' :: 'e' :: rest => some (.bool true, rest)
    | 'f' :: 'a' :: 'l' :: 's' :: 'e' :: rest => some (.bool false, rest)
    | '"' :: rest => (stringTail (rest.length + 1) [] rest).map fun (s, rest) => (.text s, rest)
    | '-' :: rest => number true rest
    | '[' :: rest =>
      if depth ≤ 1 then none
      else
        match skipBlanks rest with
        | ']' :: rest => some (.array [], rest)
        | rest => (items fuel (depth - 1) rest).map fun (xs, rest) => (.array xs, rest)
    | '{' :: rest =>
      if depth ≤ 1 then none
      else
        match skipBlanks rest with
        | '}' :: rest => some (.object [], rest)
        | rest =>
          (fields fuel (depth - 1) rest).map fun (fs, rest) => (.object (Keyed.ofList fs), rest)
    | rest => number false rest

/-- The items of an array up to its closing bracket, at least one. -/
def items (fuel depth : Nat) (cs : List Char) : Option (List Json × List Char) :=
  match fuel with
  | 0 => none
  | fuel + 1 => do
    let (x, rest) ← value fuel depth cs
    match skipBlanks rest with
    | ']' :: rest => some ([x], rest)
    | ',' :: rest => do
      let (xs, rest) ← items fuel depth rest
      some (x :: xs, rest)
    | _ => none

/-- The fields of an object up to its closing brace, at least one, as they come. -/
def fields (fuel depth : Nat) (cs : List Char) : Option (List (String × Json) × List Char) :=
  match fuel with
  | 0 => none
  | fuel + 1 =>
    match skipBlanks cs with
    | '"' :: rest => do
      let (name, rest) ← stringTail (rest.length + 1) [] rest
      match skipBlanks rest with
      | ':' :: rest => do
        let (x, rest) ← value fuel depth rest
        match skipBlanks rest with
        | '}' :: rest => some ([(name, x)], rest)
        | ',' :: rest => do
          let (more, rest) ← fields fuel depth rest
          some ((name, x) :: more, rest)
        | _ => none
      | _ => none
    | _ => none

end

def parse? (text : String) : Option Json := do
  let cs := text.toList
  let (document, rest) ← value (2 * cs.length + 2) 128 cs
  if (skipBlanks rest).isEmpty then some document else none

end SpanCapture.Json
