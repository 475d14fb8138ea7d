import FormRecovery.Instance
import FormRecovery.Pattern

/-!
A request for a resolution: a catalog to search, a capability, and the type to take apart.
-/
namespace FormRecovery

structure Request where
  catalog : Catalog
  capability : Capability
  applied : TypeId
  deriving DecidableEq

/-- The head that a candidate is looked up under. A nested form is looked up together with
the type taken out of its partly applied argument, which is its first residual. -/
def Catalog.head (capability : Capability) (c : Candidate) : Catalog → InstanceHead
  | .single => ⟨capability, c.form, []⟩
  | .dual => ⟨capability, c.form, []⟩
  | .nested => ⟨capability, c.form, c.residuals.take 1⟩

namespace Request

def head (r : Request) (c : Candidate) : InstanceHead := r.catalog.head r.capability c

/-- The candidates of the type, in the order of the catalog. -/
def candidates (s : Store) (r : Request) : List Candidate := r.catalog.candidates s r.applied

end Request

end FormRecovery
