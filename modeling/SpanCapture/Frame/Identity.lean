/-! Who executes: each execution context has a number and runs on a thread, which may
have a name. -/
namespace SpanCapture

/-- Whose trace it is: the context and the thread. -/
structure Identity where
  context : Nat
  threadName : Option String := none
  threadId : String
  deriving Repr, DecidableEq

/-- Number and thread; the name of a thread says more than its id. -/
def Identity.shown (identity : Identity) : String :=
  "ctx-" ++ toString identity.context ++ "@" ++ identity.threadName.getD identity.threadId

end SpanCapture
