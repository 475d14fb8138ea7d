import FormRecovery.Instance
import FormRecovery.Pattern
import FormRecovery.Printing

/-!
Why a resolution failed: a cause, and the steps that it happened in.
-/
namespace FormRecovery

/-- A step of a resolution. -/
inductive Crumb where
  | single
  | dual
  | nested
  | productFirst
  | productSecond
  deriving DecidableEq

inductive Cause where
  /-- No pattern that fits the type has an instance. -/
  | noViableDecomposition (capability : Capability) (applied : TypeId) (attempted : List Pattern)
  /-- The parts of a product were resolved for two capabilities. -/
  | capabilityMismatch (first second : Capability)
  /-- The isomorphism of a product relates other forms than the resolved ones. -/
  | isomorphismMismatch (first second left right : Form)
  /-- The form that a pattern proposed does not give the type back. No pattern proposes one. -/
  | uncertified (pattern : Pattern)
  deriving DecidableEq

structure ResolveError where
  cause : Cause
  /-- The outermost step first. -/
  crumbs : List Crumb := []
  deriving DecidableEq

namespace Crumb

def describe : Crumb → String
  | single => "resolving a single-hole form"
  | dual => "resolving a two-hole form"
  | nested => "resolving a nested form"
  | productFirst => "resolving the first component of a product"
  | productSecond => "resolving the second component of a product"

end Crumb

def Catalog.crumb : Catalog → Crumb
  | .single => .single
  | .dual => .dual
  | .nested => .nested

namespace Cause

def message (s : Store) : Cause → String
  | noViableDecomposition capability applied attempted =>
    "No instance of " ++ capability.name ++ " for any decomposition of '" ++
      s.print defaultWidth applied ++ "'\nattempted: " ++ Pattern.describeAll attempted
  | capabilityMismatch first second =>
    "Cannot combine resolutions for different capabilities " ++ first.name ++ " and " ++
      second.name
  | isomorphismMismatch first second left right =>
    "Isomorphism between '" ++ left.print s defaultWidth ++ "' and '" ++
      right.print s defaultWidth ++ "' cannot relate '" ++ first.print s defaultWidth ++
      "' and '" ++ second.print s defaultWidth ++ "'"
  | uncertified pattern => pattern.describe ++ " does not give its type back"

end Cause

namespace ResolveError

/-- The error with one more step around it. -/
def within (crumb : Crumb) (e : ResolveError) : ResolveError := ⟨e.cause, crumb :: e.crumbs⟩

/-- The cause, then the steps from the innermost one, a line each. -/
def message (s : Store) (e : ResolveError) : String :=
  e.crumbs.reverse.foldl (fun text crumb => text ++ "\nwhile " ++ crumb.describe)
    (e.cause.message s)

end ResolveError

end FormRecovery
