/-! # Failures of a look-up

Why no listing can be shown for a function.
-/

namespace SsaLens

/-- The causes for which a function has no listing. -/
inductive ExplorerError where
  | noWorkspace
  | notFound (function : String)
  | toolchain (detail : String)
  deriving DecidableEq, Repr

namespace ExplorerError

def message : ExplorerError → String
  | noWorkspace => "No workspace folder open"
  | notFound function => "No SSA output found for: " ++ function
  | toolchain detail => "toolchain failure: " ++ detail

def isNotFound : ExplorerError → Bool
  | notFound _ => true
  | _ => false

end ExplorerError

end SsaLens
