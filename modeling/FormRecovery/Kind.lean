/-!
Kinds of types: proper types, and arrows from a parameter kind to a result kind.
-/
namespace FormRecovery

inductive Kind where
  | proper
  | arrow (parameter result : Kind)
  deriving DecidableEq, Inhabited

namespace Kind

/-- The kind of a constructor that takes `n` proper types. -/
def ofArity : Nat → Kind
  | 0 => proper
  | n + 1 => arrow proper (ofArity n)

def isProper : Kind → Bool
  | proper => true
  | arrow _ _ => false

/-- Exactly one proper parameter and a proper result. -/
def isUnary : Kind → Bool
  | proper => false
  | arrow parameter result => parameter.isProper && result.isProper

/-- Exactly two proper parameters and a proper result. -/
def isBinary : Kind → Bool
  | proper => false
  | arrow parameter result => parameter.isProper && result.isUnary

def split? : Kind → Option (Kind × Kind)
  | proper => none
  | arrow parameter result => some (parameter, result)

@[simp] theorem isProper_iff (k : Kind) : k.isProper = true ↔ k = proper := by
  cases k <;> simp [isProper]

@[simp] theorem isUnary_iff (k : Kind) : k.isUnary = true ↔ k = ofArity 1 := by
  cases k <;> simp [isUnary, ofArity]

@[simp] theorem isBinary_iff (k : Kind) : k.isBinary = true ↔ k = ofArity 2 := by
  cases k <;> simp [isBinary, ofArity]

@[simp] theorem split?_eq_some_iff (k parameter result : Kind) :
    k.split? = some (parameter, result) ↔ k = arrow parameter result := by
  cases k <;> simp [split?]

@[simp] theorem split?_eq_none_iff (k : Kind) : k.split? = none ↔ k = proper := by
  cases k <;> simp [split?]

end Kind

end FormRecovery
