import SpanCapture.Attribute.Basic

/-! What the callbacks of collection may ask for, and what can be seen of them: listeners and
strategies supplied from outside write settings, bring strategies into the chain, or tell a
listener to go. -/
namespace SpanCapture

/-- What a callback may ask the board for. -/
inductive Request where
  | write (name : String) (value : Value)
  | register (name : String) (value : Value)
  /-- Brings a strategy into the chain, by its number. -/
  | enlist (number : Nat)
  | unsubscribe (id : Nat)
  deriving Repr

/-- What can be seen of a callback: that it was made, and with what. -/
inductive BoardEvent where
  | told (listener : Nat) (label name : String) (value : Value)
  | observed (strategy : String)
  | judged (strategy : String)
  deriving Repr, Inhabited

end SpanCapture
