import SpanCapture.Number.Binary64
import SpanCapture.Number.Power

/-! The fewest decimal digits that read back as a binary64 number. A decimal reads back
as a number when it lies in the interval of reals that round to it; the interval
includes its two ends exactly when the last binary digit of the number is zero. The
digits are found by trying one digit, then two, and so on up to seventeen: of the two
neighbours of the number on the decimal grid the nearer one that reads back is taken,
and of two equally near ones the even one. -/
namespace SpanCapture

/-- A positive decimal number: its digits read as a whole number, and the power of ten
they are multiplied by. -/
structure Decimal where
  digits : Nat
  exponent : Int
  deriving Repr, DecidableEq

namespace Decimal

/-- The power of ten of the leading digit. -/
def leading (d : Decimal) : Int := d.exponent + ((Nat.toDigits 10 d.digits).length - 1 : Nat)

/-- The same number with no zero at the end of its digits. The fuel is a bound on the
number of zeros. -/
def trim (fuel : Nat) (d : Decimal) : Decimal :=
  match fuel with
  | 0 => d
  | fuel + 1 =>
    if d.digits ≠ 0 ∧ d.digits % 10 = 0 then trim fuel ⟨d.digits / 10, d.exponent + 1⟩ else d

end Decimal

namespace Binary64

/-- The interval of reals that round to a positive finite number, and the number itself,
over one common denominator: lower end, number, upper end, denominator. Below a power of
two the grid is twice as fine, except among the smallest numbers. -/
def interval (x : Binary64) : Nat × Nat × Nat × Nat :=
  let (m, q) := x.parts
  let below := if m = twoTo 52 ∧ 0 < q then 1 else 2
  if 1076 ≤ q then
    let s := twoTo (q - 1076)
    ((4 * m - below) * s, 4 * m * s, (4 * m + 2) * s, 1)
  else (4 * m - below, 4 * m, 4 * m + 2, twoTo (1076 - q))

/-- The greatest power of ten not above a positive quotient. -/
def floorLog10 (num den : Nat) : Int :=
  let guess : Int := ((num.log2 : Int) - den.log2 - 1) * 30103 / 100000 - 1
  let reaches (k : Int) : Bool :=
    if 0 ≤ k then den * tenTo k.toNat ≤ num else den ≤ num * tenTo (-k).toNat
  -- the guess is at most a few too small
  ([3, 2, 1].find? fun (d : Nat) => reaches (guess + d)).elim guess (guess + ·)

/-- The decimal of the grid `10 ^ k` nearest to the number among its neighbours that read
back, if one does. -/
def onGrid (low mid high den : Nat) (closed : Bool) (k : Int) : Option Nat :=
  -- all four scaled so that the grid is the whole numbers times `unit`
  let (low, mid, high, unit) :=
    if 0 ≤ k then (low, mid, high, den * tenTo k.toNat)
    else (low * tenTo (-k).toNat, mid * tenTo (-k).toNat, high * tenTo (-k).toNat, den)
  let down := mid / unit
  let up := down + 1
  let readsBack (n : Nat) : Bool :=
    if closed then low ≤ n * unit && n * unit ≤ high else low < n * unit && n * unit < high
  let downGap := mid - down * unit
  let upGap := up * unit - mid
  match readsBack down && down != 0, readsBack up with
  | true, true =>
    if downGap < upGap || (downGap == upGap && down % 2 == 0) then some down else some up
  | true, false => some down
  | false, true => some up
  | false, false => none

/-- The fewest digits, and of those the nearest, that read back as a positive finite
number. -/
def shortest (x : Binary64) : Decimal :=
  let (low, mid, high, den) := x.interval
  let top := floorLog10 mid den
  let attempt (n : Nat) : Option Decimal :=
    (onGrid low mid high den (x.parts.1 % 2 == 0) (top - n)).map (⟨·, top - n⟩)
  (((List.range 17).findSome? attempt).getD ⟨0, 0⟩).trim 20

end Binary64

structure NumberLayout where
  /-- The least leading power of ten written without an exponent. -/
  plainFrom : Int
  plainTo : Int
  /-- What a whole number written without an exponent ends in. -/
  wholeSuffix : String
  positiveMark : String
  deriving Repr

namespace NumberLayout

def zeros (n : Nat) : String := "".pushn '0' n

def text (layout : NumberLayout) (d : Decimal) : String :=
  let digits := Nat.toDigits 10 d.digits
  let lead := d.leading
  if layout.plainFrom ≤ lead ∧ lead ≤ layout.plainTo then
    if 0 ≤ d.exponent then
      String.ofList digits ++ zeros d.exponent.toNat ++ layout.wholeSuffix
    else if 0 ≤ lead then
      String.ofList (digits.take (lead.toNat + 1)) ++ "." ++
        String.ofList (digits.drop (lead.toNat + 1))
    else "0." ++ zeros ((-lead).toNat - 1) ++ String.ofList digits
  else
    let mantissa := match digits with
      | [] => ""
      | [c] => String.ofList [c]
      | c :: rest => String.ofList [c] ++ "." ++ String.ofList rest
    let mark := if lead < 0 then "-" else layout.positiveMark
    mantissa ++ "e" ++ mark ++ toString lead.natAbs

def finiteText (layout : NumberLayout) (x : Binary64) : String :=
  let sign := if x.isNegative then "-" else ""
  if x.magnitude = 0 then sign ++ "0" ++ layout.wholeSuffix
  else sign ++ layout.text x.shortest

end NumberLayout
end SpanCapture
