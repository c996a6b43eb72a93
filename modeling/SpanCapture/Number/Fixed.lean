import SpanCapture.Number.Binary64
import SpanCapture.Number.Power

/-! Numbers with a fixed count of decimal places. The exact value is rounded once, a tie
going to the even digit. -/
namespace SpanCapture.Binary64

/-- The text of a finite number that is not negative, with so many places after the
point. -/
def fixed (places : Nat) (x : Binary64) : String :=
  let (num, den) := x.ratio
  let scaled := divEven (num * tenTo places) den
  let whole := scaled / tenTo places
  let digits := toString (scaled % tenTo places)
  if places = 0 then toString whole
  else toString whole ++ "." ++ "".pushn '0' (places - digits.length) ++ digits

end SpanCapture.Binary64
