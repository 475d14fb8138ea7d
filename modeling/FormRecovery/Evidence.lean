import FormRecovery.Form

/-!
Equality evidence: a type is a form at residuals, checked against the store. Evidence
moves values between the two views of the type and never touches what they carry.
-/
namespace FormRecovery

/-- A value tagged with its type, such as `Pair Int String`. -/
structure Applied (α : Type) where
  type : TypeId
  value : α
  deriving DecidableEq

/-- A value tagged with a form and residuals, such as `(\a -> Pair a String) Int`. -/
structure Decomposed (α : Type) where
  form : Form
  residuals : List TypeId
  value : α
  deriving DecidableEq

/-- What a value is tagged with is not what the evidence is about. -/
inductive CoercionError where
  | appliedMismatch (expected actual : TypeId)
  /-- The form or the residuals differ. -/
  | decomposedMismatch (expected actual : Form)
  deriving DecidableEq

namespace Decomposed

variable {α β : Type}

def map (f : α → β) (d : Decomposed α) : Decomposed β := ⟨d.form, d.residuals, f d.value⟩

@[simp] theorem map_id (d : Decomposed α) : d.map id = d := rfl

end Decomposed

/-- The type `applied` is `form` at `residuals`. -/
structure Equality where
  applied : TypeId
  form : Form
  residuals : List TypeId
  deriving DecidableEq

namespace Equality

variable {α : Type}

/-- Evidence exists if putting the residuals into the form gives the type. -/
def certify (s : Store) (applied : TypeId) (form : Form) (residuals : List TypeId) :
    Option Equality :=
  if form.reconstructs s residuals applied then some ⟨applied, form, residuals⟩ else none

/-- The decomposed view of a value that is known to have the applied type. -/
def decompose (e : Equality) (value : α) : Decomposed α := ⟨e.form, e.residuals, value⟩

def toDecomposed (e : Equality) (a : Applied α) : Except CoercionError (Decomposed α) :=
  if a.type = e.applied then .ok (e.decompose a.value)
  else .error (.appliedMismatch e.applied a.type)

def toApplied (e : Equality) (d : Decomposed α) : Except CoercionError (Applied α) :=
  if d.form = e.form ∧ d.residuals = e.residuals then .ok ⟨e.applied, d.value⟩
  else .error (.decomposedMismatch e.form d.form)

theorem certify_eq_some_iff {s : Store} {applied : TypeId} {form : Form}
    {residuals : List TypeId} {e : Equality} :
    certify s applied form residuals = some e ↔
      form.reconstructs s residuals applied = true ∧ e = ⟨applied, form, residuals⟩ := by
  unfold certify
  split
  · rename_i h
    simp [h, eq_comm (a := e)]
  · simp_all

end Equality

end FormRecovery
