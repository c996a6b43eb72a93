import SpanCapture.Toml.Text

/-! Numbers and dates of configuration text. -/
namespace SpanCapture.Toml

/-- Digits with single underscores between them, the underscores left out. The reader
starts at a digit and stops before what is neither; an underscore without a digit after
it is malformed. The fuel is the number of characters. -/
def spacedDigits (isDigit : Char → Bool) (fuel : Nat) (read : List Char) (cs : List Char) :
    Option (List Char × List Char) :=
  match fuel with
  | 0 => none
  | fuel + 1 =>
    match cs with
    | '_' :: c :: rest =>
      if isDigit c then spacedDigits isDigit fuel (c :: read) rest else none
    | ['_'] => none
    | c :: rest =>
      if isDigit c then spacedDigits isDigit fuel (c :: read) rest else some (read.reverse, cs)
    | [] => some (read.reverse, [])

def digits (isDigit : Char → Bool) : List Char → Option (List Char × List Char)
  | c :: rest => if isDigit c then spacedDigits isDigit (rest.length + 1) [c] rest else none
  | [] => none

def digitsValue (base : Nat) (ds : List Char) : Nat :=
  ds.foldl (fun n c => n * base + (Json.hexValue? c).getD 0) 0

/-- Decimal digits without a zero in front; a zero stands alone. -/
def wholeDigits : List Char → Option (List Char × List Char)
  | '0' :: rest => some (['0'], rest)
  | cs => digits Char.isDigit cs

/-- A sign, if there is one: whether it is a minus, and the characters after it. -/
def sign : List Char → Bool × List Char
  | '-' :: rest => (true, rest)
  | '+' :: rest => (false, rest)
  | cs => (false, cs)

/-- Whole numbers are signed words. -/
def inWord (i : Int) : Option Int :=
  if -(twoTo 63 : Int) ≤ i ∧ i < twoTo 63 then some i else none

def isBit (c : Char) : Bool := c = '0' || c = '1'

def isOctal (c : Char) : Bool := '0' ≤ c && c ≤ '7'

def isHex (c : Char) : Bool := (Json.hexValue? c).isSome

def based (base : Nat) (isDigit : Char → Bool) (cs : List Char) : Option (Int × List Char) := do
  let (ds, rest) ← digits isDigit cs
  some (← inWord (digitsValue base ds), rest)

def integer : List Char → Option (Int × List Char)
  | '0' :: 'x' :: rest => based 16 isHex rest
  | '0' :: 'o' :: rest => based 8 isOctal rest
  | '0' :: 'b' :: rest => based 2 isBit rest
  | cs => do
    let (negative, cs) := sign cs
    let (ds, rest) ← wholeDigits cs
    let n := digitsValue 10 ds
    some (← inWord (if negative then -(n : Int) else n), rest)

def decimal (negative : Bool) (ds : List Char) (exponent : Int) : Binary64 :=
  let n := digitsValue 10 ds
  let leading := (ds.dropWhile (· == '0')).length + exponent
  if n = 0 ∨ leading < -400 then .ofMagnitude negative 0
  else if 400 < leading then .ofMagnitude negative Binary64.infinite
  else if 0 ≤ exponent then .ofRatio negative (n * tenTo exponent.toNat) 1
  else .ofRatio negative n (tenTo (-exponent).toNat)

def exponent? : List Char → Option (Option (Int × List Char))
  | 'e' :: rest => some (after rest)
  | 'E' :: rest => some (after rest)
  | _ => none
where
  after (cs : List Char) : Option (Int × List Char) := do
    let (negative, cs) := sign cs
    let (ds, rest) ← digits Char.isDigit cs
    let n := digitsValue 10 ds
    some (if negative then -(n : Int) else n, rest)

def notANumber (negative : Bool) : Binary64 := .ofMagnitude negative (twoTo 63 - twoTo 51)

/-- A floating number. One too large for the format is malformed if it is positive. -/
def float (cs : List Char) : Option (Binary64 × List Char) := do
  let (negative, cs) := sign cs
  match cs with
  | 'i' :: 'n' :: 'f' :: rest => some (.ofMagnitude negative Binary64.infinite, rest)
  | 'n' :: 'a' :: 'n' :: rest => some (notANumber negative, rest)
  | _ => do
    let (whole, rest) ← wholeDigits cs
    let (places, e, rest) ← (match rest with
      | '.' :: rest => do
        let (places, rest) ← digits Char.isDigit rest
        match exponent? rest with
        | some reading => (reading.map fun (e, rest) => (places, e, rest))
        | none => some (places, 0, rest)
      | _ => do
        let (e, rest) ← (← exponent? rest)
        some ([], e, rest) : Option (List Char × Int × List Char))
    let x := decimal negative (whole ++ places) (e - places.length)
    if x.isInfinite && !negative then none else some (x, rest)

def fixedNumber (width low high : Nat) (cs : List Char) : Option (Nat × List Char) :=
  let ds := cs.take width
  let n := digitsValue 10 ds
  if ds.length = width ∧ ds.all Char.isDigit ∧ low ≤ n ∧ n ≤ high then some (n, cs.drop width)
  else none

def expect (c : Char) : List Char → Option (List Char)
  | d :: rest => if d = c then some rest else none
  | [] => none

def daysIn (year month : Nat) : Nat :=
  if month = 2 then
    if year % 4 = 0 ∧ (year % 100 ≠ 0 ∨ year % 400 = 0) then 29 else 28
  else if month = 4 ∨ month = 6 ∨ month = 9 ∨ month = 11 then 30
  else 31

def date (cs : List Char) : Option (List Char) := do
  let (year, cs) ← fixedNumber 4 0 9999 cs
  let (month, cs) ← fixedNumber 2 1 12 (← expect '-' cs)
  let (_, cs) ← fixedNumber 2 1 (daysIn year month) (← expect '-' cs)
  some cs

/-- The characters after a time of day. A minute may have a sixty-first second. -/
def time (cs : List Char) : Option (List Char) := do
  let (_, cs) ← fixedNumber 2 0 23 cs
  let (_, cs) ← fixedNumber 2 0 59 (← expect ':' cs)
  let (_, cs) ← fixedNumber 2 0 60 (← expect ':' cs)
  match cs with
  | '.' :: rest =>
    if (rest.head?.map Char.isDigit).getD false then some (rest.dropWhile Char.isDigit) else some cs
  | _ => some cs

/-- The characters after the distance to world time, if it is given and not malformed. -/
def offset (cs : List Char) : Option (List Char) :=
  match cs with
  | 'Z' :: rest => some rest
  | 'z' :: rest => some rest
  | c :: rest =>
    if c = '+' ∨ c = '-' then do
      let (_, cs) ← fixedNumber 2 0 23 rest
      let (_, cs) ← fixedNumber 2 0 59 (← expect ':' cs)
      some cs
    else some cs
  | [] => some []

def moment (cs : List Char) : Option (List Char) :=
  match date cs with
  | none => time cs
  | some rest =>
    match rest with
    | c :: afterMark =>
      if c = 'T' ∨ c = 't' ∨ c = ' ' then
        match time afterMark with
        | some rest => offset rest
        | none => some rest
      else some rest
    | [] => some []

end SpanCapture.Toml
