/-! # Inlining verdicts

What the Go compiler says about one function or one call at one source line, and the
one-line wording that listings and hints share.
-/

namespace SsaLens

/-- A verdict of the inliner. `shape` is the body that an inlinable function expands to. -/
inductive Verdict where
  | canInline (name cost shape : String)
  | cannotInline (name reason : String) (cost : Option String)
  | inlinedCall (name : String)
  deriving DecidableEq, Repr

namespace Verdict

/-- The inlining budget that is quoted beside a cost. -/
def budget : UInt32 := 80

def name : Verdict → String
  | canInline name _ _ | cannotInline name _ _ | inlinedCall name => name

/-- The function itself is inlinable. -/
def isInlinable : Verdict → Bool
  | canInline .. => true
  | _ => false

/-- A call was replaced by the body of its callee. -/
def isInlinedCall : Verdict → Bool
  | inlinedCall .. => true
  | _ => false

def cost? : Verdict → Option String
  | canInline _ cost _ => some cost
  | cannotInline _ _ cost => cost
  | inlinedCall _ => none

def shape? : Verdict → Option String
  | canInline _ _ shape => some shape
  | _ => none

/-- The wording of a verdict. A cost stands in for the reason it was found in. -/
def describe : Verdict → String
  | canInline name cost _ => "can inline " ++ name ++ " with cost " ++ cost
  | inlinedCall name => "inlining call to " ++ name
  | cannotInline name _ (some cost) =>
      "cannot inline " ++ name ++ ": function too complex: cost " ++ cost ++ " exceeds budget 80"
  | cannotInline name reason none => "cannot inline " ++ name ++ ": " ++ reason

end Verdict

end SsaLens
