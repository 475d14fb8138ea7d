import FormRecovery.Form
import FormRecovery.Spine

/-!
Matching a spine against one slot per argument. A slot keeps its argument, opens
it as a hole, or opens the last argument inside it; the opened types are the
residuals. The leading kept arguments stay inside the stored partial application,
so that the form is canonical although nothing is stored.
-/
namespace FormRecovery

inductive Slot where
  /-- The argument is kept. -/
  | fixed
  /-- The argument becomes a hole. -/
  | hole (h : Hole)
  /-- The argument `F A` becomes `F` applied to a hole. -/
  | partialHole (h : Hole)
  deriving DecidableEq

/-- What a slot makes of its argument: a part of the form, and the type taken out for a hole. -/
structure Opening where
  template : Template
  taken : Option (Hole × TypeId)
  deriving DecidableEq

namespace Slot

def hole? : Slot → Option Hole
  | fixed => none
  | hole h => some h
  | partialHole h => some h

/-- A partial slot opens applications only. -/
def open? (s : Store) (argument : TypeId) : Slot → Option Opening
  | fixed => some ⟨.fixed argument, none⟩
  | hole h => some ⟨.hole h, some (h, argument)⟩
  | partialHole h =>
    (s.split? argument).map fun (function, inner) =>
      ⟨.application (.fixed function) (.hole h), some (h, inner)⟩

end Slot

namespace Opening

/-- The type taken out for the hole `h`, if this opening has that hole. -/
def takenFor? (h : Hole) (o : Opening) : Option TypeId :=
  match o.taken with
  | some (k, id) => if k = h then some id else none
  | none => none

end Opening

/-- The one type taken out for the hole `h`; there is none if no opening has the hole, or if
two have it and disagree. -/
def residual? (openings : List Opening) (h : Hole) : Option TypeId :=
  match openings.filterMap (·.takenFor? h) with
  | [] => none
  | id :: others => if others.all (· == id) then some id else none

namespace Form

/-- The form and the residuals that the slots make of a spine, if there is one slot per
argument, each slot opens its argument, and every hole from zero up to the largest one used
takes out exactly one type. -/
def decompose (s : Store) (spine : Spine) (slots : List Slot) :
    Option (Form × List TypeId) := do
  guard (slots.length = spine.arity)
  let largest ← (slots.filterMap Slot.hole?).max?
  guard (largest < maxArity)
  let openings ← (slots.zip spine.arguments).mapM fun (slot, argument) => slot.open? s argument
  let residuals ← (List.range (largest + 1)).mapM (residual? openings)
  let kept := (slots.takeWhile (· == .fixed)).length
  let start ← spine.upTo? kept
  let body := Template.applyAll (.fixed start) ((openings.drop kept).map (·.template))
  return (⟨largest + 1, body⟩, residuals)

end Form

end FormRecovery
