import FormRecovery.Decomposition

/-!
Patterns: the shapes of applied types from which a form is taken, and the catalogs
that list them by priority. A pattern asks for a number of arguments, a kind for each
of them, and says which arguments become holes.
-/
namespace FormRecovery

/-- The number of arguments of a trailing pattern. -/
structure TrailingArity where
  value : Nat
  three_le : 3 ≤ value
  le_seven : value ≤ 7
  deriving DecidableEq

def TrailingArity.ofNat? (n : Nat) : Option TrailingArity :=
  if h : 3 ≤ n ∧ n ≤ 7 then some ⟨n, h.1, h.2⟩ else none

inductive Pattern where
  /-- `M A` to `\a -> M a`. -/
  | unary
  /-- `M F A` to `\a -> M F a`, for `F : Type -> Type`. -/
  | constructorArgument
  /-- `M A B` to `\a -> M a B`. -/
  | binaryFirst
  /-- `M A B` to `\a -> M A a`. -/
  | binarySecond
  /-- `M A … Z` to `\a -> M A … a`, for three to seven arguments. -/
  | trailing (arity : TrailingArity)
  /-- `M F A A B` to `\a -> M F a a B`. -/
  | constructorCoupled
  /-- `M F A B C` to `\a -> M F A B a`. -/
  | constructorTrailing
  /-- `M F A B` to `\a -> M F a B`. -/
  | constructorFirst
  /-- `M F A B` to `\a -> M F A a`. -/
  | constructorSecond
  /-- `X` to `\a -> X`. -/
  | constant
  /-- `M A B` to `\a b -> M a b`. -/
  | binaryBoth
  /-- `M F A B` to `\a b -> M F a b`. -/
  | constructorBinaryBoth
  /-- `M (F A) C B` to `\a b -> M (F a) C b`, for `F : Type -> Type -> Type`. -/
  | partialBinary
  deriving DecidableEq

/-- What a pattern asks of an argument. -/
inductive Requirement where
  /-- Kind `Type`. -/
  | proper
  /-- Kind `Type -> Type`. -/
  | constructor
  /-- An application `F A` with `F : Type -> Type -> Type` and `A : Type`. -/
  | partialBinary
  deriving DecidableEq

namespace Requirement

/-- Whether the argument is as asked. -/
def check (s : Store) (argument : TypeId) : Requirement → Reading Bool
  | proper => return (← s.readKind argument).isProper
  | constructor => return (← s.readKind argument).isUnary
  | partialBinary => do
    match ← s.readSplit argument with
    | some (function, inner) =>
      if (← s.readKind function).isBinary then return (← s.readKind inner).isProper
      else return false
    | none => return false

def admits (s : Store) (argument : TypeId) (requirement : Requirement) : Bool :=
  (requirement.check s argument).value

theorem admits_eq (s : Store) (argument : TypeId) (requirement : Requirement) :
    requirement.admits s argument = match requirement with
      | proper => (s.kind argument).isProper
      | constructor => (s.kind argument).isUnary
      | partialBinary =>
        match s.split? argument with
        | some (function, inner) => (s.kind function).isBinary && (s.kind inner).isProper
        | none => false := by
  cases requirement with
  | proper => rfl
  | constructor => rfl
  | partialBinary =>
    rw [admits, check, Reading.value_bind, Store.readSplit]
    cases s.split? argument with
    | none => rfl
    | some sides =>
      simp only [Reading.value_bind, Store.readKind]
      cases (s.kind sides.1).isBinary <;> rfl

end Requirement

/-- A form and residuals that a pattern proposes for a type. -/
structure Candidate where
  pattern : Pattern
  form : Form
  residuals : List TypeId
  deriving DecidableEq

namespace Pattern

/-- A requirement and a slot for each argument, in order. -/
def layout : Pattern → List (Requirement × Slot)
  | unary => [(.proper, .hole 0)]
  | constructorArgument => [(.constructor, .fixed), (.proper, .hole 0)]
  | binaryFirst => [(.proper, .hole 0), (.proper, .fixed)]
  | binarySecond => [(.proper, .fixed), (.proper, .hole 0)]
  | trailing arity => List.replicate (arity.value - 1) (.proper, .fixed) ++ [(.proper, .hole 0)]
  | constructorCoupled =>
    [(.constructor, .fixed), (.proper, .hole 0), (.proper, .hole 0), (.proper, .fixed)]
  | constructorTrailing =>
    [(.constructor, .fixed), (.proper, .fixed), (.proper, .fixed), (.proper, .hole 0)]
  | constructorFirst => [(.constructor, .fixed), (.proper, .hole 0), (.proper, .fixed)]
  | constructorSecond => [(.constructor, .fixed), (.proper, .fixed), (.proper, .hole 0)]
  | constant => []
  | binaryBoth => [(.proper, .hole 0), (.proper, .hole 1)]
  | constructorBinaryBoth => [(.constructor, .fixed), (.proper, .hole 0), (.proper, .hole 1)]
  | partialBinary => [(.partialBinary, .partialHole 0), (.proper, .fixed), (.proper, .hole 1)]

/-- Whether the type is proper and its arguments are as many as the layout has, each admitted. -/
def check (s : Store) (spine : Spine) (p : Pattern) : Reading Bool := do
  if (← s.readKind spine.applied).isProper then
    if p.layout.length = spine.arity then
      (p.layout.zip spine.arguments).allM fun ((requirement, _), argument) =>
        requirement.check s argument
    else return false
  else return false

def admits (s : Store) (spine : Spine) (p : Pattern) : Bool := (p.check s spine).value

theorem admits_eq (s : Store) (spine : Spine) (p : Pattern) :
    p.admits s spine = ((s.kind spine.applied).isProper && p.layout.length == spine.arity &&
      (p.layout.zip spine.arguments).all fun q => q.1.1.admits s q.2) := by
  rw [admits, check, Reading.value_bind, Store.readKind]
  cases (s.kind spine.applied).isProper with
  | false => rfl
  | true =>
    by_cases hlength : p.layout.length = spine.arity
    · simp [hlength, Requirement.admits]
    · simp [hlength]

/-- What the pattern makes of a type, if the type has its shape. The constant pattern takes any
type of any kind. -/
def candidate? (s : Store) (applied : TypeId) (p : Pattern) : Option Candidate :=
  if p = constant then some ⟨p, .constant applied, [applied]⟩
  else if p.admits s (s.spine applied) then
    (Form.decompose s (s.spine applied) (p.layout.map (·.2))).map fun (form, residuals) =>
      ⟨p, form, residuals⟩
  else none

def describe : Pattern → String
  | unary => "unary"
  | constructorArgument => "constructor-argument"
  | binaryFirst => "binary-first"
  | binarySecond => "binary-second"
  | trailing arity => "trailing-" ++ toString arity.value
  | constructorCoupled => "constructor-coupled"
  | constructorTrailing => "constructor-trailing"
  | constructorFirst => "constructor-first"
  | constructorSecond => "constructor-second"
  | constant => "constant"
  | binaryBoth => "binary-both"
  | constructorBinaryBoth => "constructor-binary-both"
  | partialBinary => "partial-binary"

/-- The place of a pattern in the order of patterns; trailing patterns follow one another
by arity. -/
def rank : Pattern → Nat
  | unary => 0
  | constructorArgument => 1
  | binaryFirst => 2
  | binarySecond => 3
  | trailing arity => 1 + arity.value
  | constructorCoupled => 9
  | constructorTrailing => 10
  | constructorFirst => 11
  | constructorSecond => 12
  | constant => 13
  | binaryBoth => 14
  | constructorBinaryBoth => 15
  | partialBinary => 16

instance : LE Pattern := ⟨fun p q => p.rank ≤ q.rank⟩

instance (p q : Pattern) : Decidable (p ≤ q) := inferInstanceAs (Decidable (p.rank ≤ q.rank))

/-- The patterns in order, with their repetitions. -/
def sort (ps : List Pattern) : List Pattern := ps.mergeSort

/-- Pattern names separated by commas. -/
def describeAll (ps : List Pattern) : String := String.intercalate ", " (ps.map describe)

def trailings : List Pattern := ([3, 4, 5, 6, 7].filterMap TrailingArity.ofNat?).map trailing

/-- Patterns with one hole. When either argument of two could vary, the last one is kept. -/
def singles : List Pattern :=
  [unary, constructorArgument, binaryFirst, binarySecond] ++ trailings ++
    [constructorCoupled, constructorTrailing, constructorFirst, constructorSecond, constant]

/-- Patterns with two holes at argument positions. -/
def duals : List Pattern := [binaryBoth, constructorBinaryBoth]

/-- Patterns with a hole inside an argument. -/
def nesteds : List Pattern := [partialBinary]

def all : List Pattern := singles ++ duals ++ nesteds

/-- The pattern of a name. -/
def ofName? (name : String) : Option Pattern := all.find? (·.describe == name)

end Pattern

/-- The patterns that a resolver tries, by priority. -/
inductive Catalog where
  | single
  | dual
  | nested
  deriving DecidableEq

namespace Catalog

def patterns : Catalog → List Pattern
  | single => Pattern.singles
  | dual => Pattern.duals
  | nested => Pattern.nesteds

/-- The candidates of a type, in the order of the catalog. -/
def candidates (s : Store) (applied : TypeId) (c : Catalog) : List Candidate :=
  c.patterns.filterMap (·.candidate? s applied)

end Catalog

end FormRecovery
