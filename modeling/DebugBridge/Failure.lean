import DebugBridge.Link.Fault

/-!
# Failures

A failure is told from the outside in: what was being done, inside that what was being done for
it, and at the end the cause. Its text joins these; its headline is the first of them.
-/

namespace DebugBridge

/-- Why something could not be done. -/
inductive Failure where
  /-- A cause in its own words. -/
  | plain (text : String)
  /-- The link failed. -/
  | link (fault : LinkFault)
  /-- A failure while something was being done. -/
  | within (activity : String) (cause : Failure)
  deriving Repr, DecidableEq

namespace Failure

/-- The parts of a failure, outermost first. -/
def chain : Failure → List String
  | plain text => [text]
  | link f => f.chain
  | within activity cause => activity :: cause.chain

/-- All parts of a failure. -/
def text (f : Failure) : String := ": ".intercalate f.chain

/-- The outermost part of a failure. -/
def headline (f : Failure) : String := f.chain.headD ""

end Failure
end DebugBridge
