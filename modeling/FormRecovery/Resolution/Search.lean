import FormRecovery.Evidence
import FormRecovery.Resolution.Session

/-!
The search: the patterns of a catalog are tried in order, and the form that one makes
of the type is looked up, until one has an instance. The result carries evidence that
the form at the residuals is the type.
-/
namespace FormRecovery

structure Found (ι : Type) where
  pattern : Pattern
  value : ι
  equality : Equality
  deriving DecidableEq

section

variable {σ ι : Type}

/-- Tries the patterns in turn. One that fits the type is looked up, one that does not is passed
over; `attempted` are the patterns looked up before. -/
def searchFrom (s : Store) (lookup : Lookup σ ι) (r : Request) :
    List Pattern → (attempted : List Pattern) → Resolving σ (Found ι)
  | [], attempted => do
    Resolving.emit ⟨r, .exhausted attempted⟩
    throw (ResolveError.within r.catalog.crumb
      ⟨.noViableDecomposition r.capability r.applied attempted, []⟩)
  | p :: rest, attempted =>
    match p.candidate? s r.applied with
    | none => searchFrom s lookup r rest attempted
    | some c => do
      let answer ← Resolving.ask lookup (r.head c)
      Resolving.emit ⟨r, .attempt p c.form answer.isSome⟩
      match answer with
      | none => searchFrom s lookup r rest (attempted ++ [p])
      | some value =>
        match Equality.certify s r.applied c.form c.residuals with
        | some equality => do
          Resolving.emit ⟨r, .resolved p equality.form equality.residuals⟩
          return ⟨p, value, equality⟩
        | none => throw ⟨.uncertified p, []⟩

/-- The first pattern whose form has an instance. -/
def search (s : Store) (lookup : Lookup σ ι) (r : Request) : Resolving σ (Found ι) :=
  searchFrom s lookup r r.catalog.patterns []

end

/-- A type taken apart for a capability, with the instance for its form. -/
structure Resolution (ι : Type) where
  pattern : Pattern
  capability : Capability
  value : ι
  equality : Equality
  deriving DecidableEq

namespace Resolution

variable {σ ι α : Type}

def form (r : Resolution ι) : Form := r.equality.form

def residuals (r : Resolution ι) : List TypeId := r.equality.residuals

def applied (r : Resolution ι) : TypeId := r.equality.applied

/-- The residual of a form with one hole. -/
def residual? (r : Resolution ι) : Option TypeId :=
  match r.residuals with
  | [residual] => some residual
  | _ => none

/-- The residuals of a form with two holes. For a nested form the first is the type inside the
partly applied argument. -/
def residualPair? (r : Resolution ι) : Option (TypeId × TypeId) :=
  match r.residuals with
  | [first, second] => some (first, second)
  | _ => none

/-- A value of the applied type, viewed at the form. -/
def decompose (r : Resolution ι) (value : α) : Decomposed α := r.equality.decompose value

def toDecomposed (r : Resolution ι) (a : Applied α) : Except CoercionError (Decomposed α) :=
  r.equality.toDecomposed a

def toApplied (r : Resolution ι) (d : Decomposed α) : Except CoercionError (Applied α) :=
  r.equality.toApplied d

end Resolution

/-- Searches a catalog and keeps the capability with what was found. -/
def resolve {σ ι : Type} (s : Store) (lookup : Lookup σ ι) (r : Request) :
    Resolving σ (Resolution ι) := do
  let found ← search s lookup r
  return ⟨found.pattern, r.capability, found.value, found.equality⟩

end FormRecovery
