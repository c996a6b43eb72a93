/-! Powers of the two bases in use: two for words, ten for digits. -/
namespace SpanCapture

abbrev twoTo (exponent : Nat) : Nat := Nat.pow 2 exponent

abbrev tenTo (exponent : Nat) : Nat := Nat.pow 10 exponent

end SpanCapture
