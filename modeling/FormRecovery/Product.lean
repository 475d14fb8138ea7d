import FormRecovery.Resolution.Search

/-!
Products: two single-hole resolutions `X₁ = F₁[A]` and `X₂ = F₂[B]`, joined by an
isomorphism between `F₁` and `F₂`, so that values of both types can be handled at `F₁`.
The conversions of the isomorphism are trusted to be inverse to each other.
-/
namespace FormRecovery

/-- Conversions between values at the form `left` and values at the form `right`. -/
structure Isomorphism (α : Type) where
  left : Form
  right : Form
  toRight : α → α
  toLeft : α → α

structure Product (ι α : Type) where
  first : Resolution ι
  second : Resolution ι
  isomorphism : Isomorphism α

namespace Template

/-- The template written out as its constructors, with ids counted from one. -/
def describe : Template → String
  | fixed id => "Fixed(TypeId(" ++ toString (id.index + 1) ++ "))"
  | hole h => "Hole(Hole(" ++ toString h ++ "))"
  | application function argument =>
    "Application(" ++ function.describe ++ ", " ++ argument.describe ++ ")"

end Template

def Form.describe (f : Form) : String :=
  "Form \x7b arity: " ++ toString f.arity ++ ", body: " ++ f.body.describe ++ " \x7d"

/-- The forms of the isomorphism; its conversions are left out. -/
def Isomorphism.describe {α : Type} (i : Isomorphism α) : String :=
  "Isomorphism \x7b left: " ++ i.left.describe ++ ", right: " ++ i.right.describe ++ ", .. \x7d"

namespace Product

variable {σ ι α : Type}

/-- Joins two resolutions of one capability by an isomorphism from the first form to the second.
Capabilities are compared before forms. -/
def combine (first second : Resolution ι) (isomorphism : Isomorphism α) :
    Except ResolveError (Product ι α) :=
  if first.capability ≠ second.capability then
    .error ⟨.capabilityMismatch first.capability second.capability, []⟩
  else if isomorphism.left = first.form ∧ isomorphism.right = second.form then
    .ok ⟨first, second, isomorphism⟩
  else
    .error ⟨.isomorphismMismatch first.form second.form isomorphism.left isomorphism.right, []⟩

/-- The form at which both values are handled. -/
def form (p : Product ι α) : Form := p.first.form

def firstResidual? (p : Product ι α) : Option TypeId := p.first.residual?

def secondResidual? (p : Product ι α) : Option TypeId := p.second.residual?

/-- The instance for the shared form. -/
def value (p : Product ι α) : ι := p.first.value

/-- A value of the first type, at the shared form. -/
def decomposeFirst (p : Product ι α) (a : Applied α) : Except CoercionError (Decomposed α) :=
  p.first.toDecomposed a

/-- A value of the second type, converted to the shared form. -/
def decomposeSecond (p : Product ι α) (a : Applied α) : Except CoercionError (Decomposed α) := do
  let d ← p.second.toDecomposed a
  return ⟨p.form, d.residuals, p.isomorphism.toLeft d.value⟩

/-- A value at the shared form, as a value of the first type. -/
def restoreFirst (p : Product ι α) (d : Decomposed α) : Except CoercionError (Applied α) :=
  p.first.toApplied d

/-- A value at the shared form, converted back to a value of the second type. -/
def restoreSecond (p : Product ι α) (d : Decomposed α) : Except CoercionError (Applied α) :=
  if d.form = p.form then
    p.second.toApplied ⟨p.second.form, d.residuals, p.isomorphism.toRight d.value⟩
  else .error (.decomposedMismatch p.form d.form)

/-- Resolves both types, the second only after the first, and joins them. -/
def resolve (s : Store) (lookup : Lookup σ ι) (capability : Capability) (first second : TypeId)
    (isomorphism : Isomorphism α) : Resolving σ (Product ι α) := do
  let first ← Resolving.within .productFirst
    (FormRecovery.resolve s lookup ⟨.single, capability, first⟩)
  let second ← Resolving.within .productSecond
    (FormRecovery.resolve s lookup ⟨.single, capability, second⟩)
  match combine first second isomorphism with
  | .ok product => return product
  | .error e => throw e

end Product

end FormRecovery
