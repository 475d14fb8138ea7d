import FormRecovery.Store

/-!
A type as a head applied to arguments. Each step of a spine keeps the argument
and the type reached by it, so that the arguments and the partial applications
cannot get out of step.
-/
namespace FormRecovery

structure SpineStep where
  argument : TypeId
  reached : TypeId
  deriving DecidableEq

structure Spine where
  head : TypeId
  steps : List SpineStep
  deriving DecidableEq

namespace Spine

/-- One more argument at the end. -/
def snoc (p : Spine) (argument reached : TypeId) : Spine :=
  ⟨p.head, p.steps ++ [⟨argument, reached⟩]⟩

def arity (p : Spine) : Nat := p.steps.length

def arguments (p : Spine) : List TypeId := p.steps.map (·.argument)

/-- The head applied to its first zero, one, two, … arguments. -/
def prefixes (p : Spine) : List TypeId := p.head :: p.steps.map (·.reached)

/-- The head applied to its first `n` arguments. -/
def upTo? (p : Spine) (n : Nat) : Option TypeId := p.prefixes[n]?

/-- The head applied to all its arguments. -/
def applied (p : Spine) : TypeId := p.prefixes.getLastD p.head

@[simp] theorem arguments_snoc (p : Spine) (x y : TypeId) :
    (p.snoc x y).arguments = p.arguments ++ [x] := by simp [snoc, arguments]

@[simp] theorem prefixes_snoc (p : Spine) (x y : TypeId) :
    (p.snoc x y).prefixes = p.prefixes ++ [y] := by simp [snoc, prefixes]

@[simp] theorem arity_snoc (p : Spine) (x y : TypeId) :
    (p.snoc x y).arity = p.arity + 1 := by simp [snoc, arity]

@[simp] theorem head_snoc (p : Spine) (x y : TypeId) : (p.snoc x y).head = p.head := rfl

@[simp] theorem length_arguments (p : Spine) : p.arguments.length = p.arity := by
  simp [arguments, arity]

@[simp] theorem length_prefixes (p : Spine) : p.prefixes.length = p.arity + 1 := by
  simp [prefixes, arity]

end Spine

namespace Store

/-- The spine of a type. The walk goes from an application to its function, which is an
earlier entry. -/
def spine (s : Store) (id : TypeId) : Spine :=
  match s.split? id with
  | some (function, argument) =>
    if function.index < id.index then (s.spine function).snoc argument id else ⟨id, []⟩
  | none => ⟨id, []⟩
termination_by id.index

end Store

end FormRecovery
