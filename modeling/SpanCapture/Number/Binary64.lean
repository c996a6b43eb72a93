import SpanCapture.Number.Power

/-! Binary floating point of sixty-four bits, as data. A number is its bit pattern; all
arithmetic is exact arithmetic on whole numbers followed by one rounding to the nearest
pattern, a tie going to the even one. -/
namespace SpanCapture

/-- A binary64 number, given by its bits. Two zeros and many not-a-numbers are different
values of this type; `Binary64.same` is the comparison of numbers. -/
structure Binary64 where
  bits : UInt64
  deriving Repr, DecidableEq

namespace Binary64

def isNegative (x : Binary64) : Bool := x.bits.toNat ≥ twoTo 63

/-- The bits below the sign: they grow with the magnitude. -/
def magnitude (x : Binary64) : Nat := x.bits.toNat % twoTo 63

/-- The magnitude of infinity; larger ones are not numbers. -/
def infinite : Nat := 2047 * twoTo 52

def isNaN (x : Binary64) : Bool := infinite < x.magnitude

def isFinite (x : Binary64) : Bool := x.magnitude < infinite

/-- Comparison as numbers: a not-a-number equals nothing, itself included, and the two
zeros are equal. -/
def same (x y : Binary64) : Bool :=
  !x.isNaN && !y.isNaN && (x.bits == y.bits || (x.magnitude == 0 && y.magnitude == 0))

def ofMagnitude (negative : Bool) (magnitude : Nat) : Binary64 :=
  ⟨UInt64.ofNat (magnitude % twoTo 63 + if negative then twoTo 63 else 0)⟩

/-- The whole number `m` and the power `q` for which the magnitude of a finite number is
`m * 2 ^ (q - 1074)`. -/
def parts (x : Binary64) : Nat × Nat :=
  let exponent := x.magnitude / twoTo 52
  let fraction := x.magnitude % twoTo 52
  if exponent = 0 then (fraction, 0) else (fraction + twoTo 52, exponent - 1)

def ratio (x : Binary64) : Nat × Nat :=
  let (m, q) := x.parts
  if 1074 ≤ q then (m * twoTo (q - 1074), 1) else (m, twoTo (1074 - q))

/-- A quotient rounded to a whole number, a tie going to the even one. -/
def divEven (num den : Nat) : Nat :=
  let quotient := num / den
  let twice := 2 * (num % den)
  if den < twice || (den == twice && quotient % 2 == 1) then quotient + 1 else quotient

/-- The magnitude nearest to the quotient of two whole numbers, `den` positive. The power
of two is the one that leaves fifty-three binary digits, or the smallest there is; a
rounding that carries runs on into the next power by itself. -/
def nearest (num den : Nat) : Nat :=
  if num = 0 then 0
  else
    -- the lengths of the two numbers give the power but for one step
    let guess := (num.log2 + 1074 + 1) - (den.log2 + 53)
    let scaled (q : Nat) : Nat × Nat :=
      if 1074 ≤ q then (num, den * twoTo (q - 1074)) else (num * twoTo (1074 - q), den)
    let digits (q : Nat) : Nat := (scaled q).1 / (scaled q).2
    let q := if digits guess < twoTo 52 then guess - 1
      else if twoTo 53 ≤ digits guess then guess + 1 else guess
    min infinite (q * twoTo 52 + divEven (scaled q).1 (scaled q).2)

def ofRatio (negative : Bool) (num den : Nat) : Binary64 :=
  ofMagnitude negative (nearest num den)

def ofNat (n : Nat) : Binary64 := ofRatio false n 1

def ofInt (i : Int) : Binary64 := ofRatio (i < 0) i.natAbs 1

def mul (x y : Binary64) : Binary64 :=
  let (a, b) := x.ratio
  let (c, d) := y.ratio
  ofRatio (x.isNegative != y.isNegative) (a * c) (b * d)

/-- The rounded quotient of two finite numbers, the second not zero. -/
def div (x y : Binary64) : Binary64 :=
  let (a, b) := x.ratio
  let (c, d) := y.ratio
  ofRatio (x.isNegative != y.isNegative) (a * d) (b * c)

def neg (x : Binary64) : Binary64 := ofMagnitude (!x.isNegative) x.magnitude

def isInfinite (x : Binary64) : Bool := x.magnitude == infinite

def zero : Binary64 := ⟨0⟩

instance : Inhabited Binary64 := ⟨zero⟩

end Binary64
end SpanCapture
