import FormRecovery.Template

/-!
Forms: type-level functions of one or two arguments, such as
`\a -> Pair a String`, given by a canonical template.
-/
namespace FormRecovery

structure Form where
  arity : Nat
  body : Template
  deriving DecidableEq

inductive FormError where
  | unsupportedArity (arity : Nat)
  /-- The largest hole of the body is not below the arity. -/
  | holeOutOfRange (hole : Hole) (arity : Nat)
  | residualCount (expected actual : Nat)
  | kind (cause : KindError)
  deriving DecidableEq

namespace Template

/-- Stores the type that results from putting residuals in place of the holes, the function
of an application before its argument. -/
def instantiate (residuals : List TypeId) : Template → Interning FormError TypeId
  | fixed id => pure id
  | hole h =>
    match residuals[h]? with
    | some id => pure id
    | none => throw (.holeOutOfRange h residuals.length)
  | application function argument => do
    let function ← function.instantiate residuals
    let argument ← argument.instantiate residuals
    (Interning.apply function argument).adaptExcept .kind

end Template

namespace Form

/-- Forms have one or two holes. -/
def maxArity : Nat := 2

/-- What keeps a template from being the body of a form, before any kind is checked. -/
def fault? (arity : Nat) (body : Template) : Option FormError :=
  if 1 ≤ arity ∧ arity ≤ maxArity then
    match body.holes.max? with
    | some h => if h < arity then none else some (.holeOutOfRange h arity)
    | none => none
  else some (.unsupportedArity arity)

/-- The form with this body, made canonical. -/
def ofTemplate (arity : Nat) (body : Template) : Interning FormError Form :=
  match fault? arity body with
  | some e => throw e
  | none => do
    let body ← body.canonicalize.adaptExcept .kind
    return ⟨arity, body⟩

/-- The form `\a -> M a`. -/
def ofConstructor (constructor : TypeId) : Form :=
  ⟨1, .application (.fixed constructor) (.hole 0)⟩

/-- The form `\a -> X`, which ignores its argument. -/
def constant (applied : TypeId) : Form := ⟨1, .fixed applied⟩

def isConstant (f : Form) : Bool := f.body.isClosed

/-- Whether putting the residuals into the form gives the type. -/
def reconstructs (s : Store) (f : Form) (residuals : List TypeId) (applied : TypeId) : Bool :=
  residuals.length == f.arity && f.body.reconstructs s residuals applied

theorem reconstructs_iff {s : Store} {f : Form} {residuals : List TypeId} {applied : TypeId} :
    f.reconstructs s residuals applied = true ↔
      residuals.length = f.arity ∧ f.body.reconstructs s residuals applied = true := by
  simp [reconstructs]

/-- Stores the type that the form gives for the residuals. -/
def instantiate (f : Form) (residuals : List TypeId) : Interning FormError TypeId :=
  if residuals.length = f.arity then f.body.instantiate residuals
  else throw (.residualCount f.arity residuals.length)

end Form

end FormRecovery
