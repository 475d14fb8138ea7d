import FormRecovery.Form

/-!
A store of common constructors, and short ways to build types and forms over it.
-/
namespace FormRecovery.Prelude

/-- `(Type -> Type) -> Type -> … -> Type` with `n` proper parameters after the first one. -/
def higher (n : Nat) : Kind := .arrow (.ofArity 1) (.ofArity n)

def tupleName (arity : Nat) : String := "Tuple" ++ toString arity

def declarations : List (String × Kind) :=
  [("Int", .proper), ("String", .proper), ("Unit", .proper),
   ("Box", .ofArity 1), ("Option", .ofArity 1), ("List", .ofArity 1),
   ("Pair", .ofArity 2), ("Either", .ofArity 2),
   ("OptionT", higher 1), ("ReaderT", higher 2), ("IndexedState", higher 3)] ++
  [3, 4, 5, 6, 7].map fun arity => (tupleName arity, .ofArity arity)

/-- Declares all of them, in order. -/
def declareAll : Interning KindError Unit :=
  declarations.forM fun (name, kind) => do
    let _ ← Interning.declare name kind

/-- The constructors in a store that files by this hash. -/
def storeWith (hash : Shape → UInt64) : Store :=
  match declareAll (.emptyWith hash) with
  | .ok _ s => s
  | .error _ s => s

def store : Store := storeWith Store.empty.hash

/-- The constructor of tuples of this many components, if it is declared. -/
def tuple? (s : Store) (arity : Nat) : Option TypeId := s.constructor? (tupleName arity)

/-- The form `\a -> head x …`, where a missing argument is the hole. -/
def form (head : TypeId) (arguments : List (Option TypeId)) : Interning FormError Form :=
  Form.ofTemplate 1 (Template.applyAll (.fixed head)
    (arguments.map fun
      | some id => .fixed id
      | none => .hole 0))

end FormRecovery.Prelude
