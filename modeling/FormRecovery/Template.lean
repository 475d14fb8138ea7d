import FormRecovery.Store

/-!
Templates: types with numbered holes. A template is canonical when every part
without holes is a single stored type; templates over one store that stand for
the same type expression then have one canonical form, and can serve as keys.
-/
namespace FormRecovery

/-- Holes are numbered from zero. -/
abbrev Hole := Nat

inductive Template where
  /-- A closed type. -/
  | fixed (id : TypeId)
  /-- An open position. -/
  | hole (h : Hole)
  | application (function argument : Template)
  deriving DecidableEq

namespace Template

def applyAll (function : Template) (arguments : List Template) : Template :=
  arguments.foldl application function

/-- The holes from left to right, with repetitions. -/
def holes : Template → List Hole
  | fixed _ => []
  | hole h => [h]
  | application function argument => function.holes ++ argument.holes

def isClosed (t : Template) : Bool := t.holes.isEmpty

/-- An application, or the stored type if both sides are closed types. -/
def collapse : Template → Template → Interning KindError Template
  | fixed function, fixed argument => fun s =>
    match Interning.apply function argument s with
    | .ok id s => .ok (fixed id) s
    | .error e s => .error e s
  | function, argument => pure (application function argument)

/-- Stores every part without holes, the function of an application before its argument. -/
def canonicalize : Template → Interning KindError Template
  | fixed id => pure (fixed id)
  | hole h => pure (hole h)
  | application function argument => do
    let function ← function.canonicalize
    let argument ← argument.canonicalize
    collapse function argument

/-- Whether the template with residuals in place of its holes is the given type.
This only reads the store. -/
def reconstructs (s : Store) (residuals : List TypeId) : Template → TypeId → Bool
  | fixed t, id => t == id
  | hole h, id => residuals[h]? == some id
  | application function argument, id =>
    match s.split? id with
    | some (f, x) => function.reconstructs s residuals f && argument.reconstructs s residuals x
    | none => false

@[simp] theorem holes_fixed (id : TypeId) : (fixed id).holes = [] := rfl

@[simp] theorem holes_hole (h : Hole) : (hole h).holes = [h] := rfl

@[simp] theorem holes_application (f x : Template) :
    (application f x).holes = f.holes ++ x.holes := rfl

@[simp] theorem isClosed_application (f x : Template) :
    (application f x).isClosed = (f.isClosed && x.isClosed) := by
  cases hf : f.holes <;> simp [isClosed, hf]

end Template

end FormRecovery
