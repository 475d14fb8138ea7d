import FormRecovery.Proofs.Interning

/-!
Runs of a store. A host calls the operations on ids that the store gave out, in any order, and
goes on whether they fail or not. Every store that a run reaches has grown from the one it
started at, so a run that starts at an empty store reaches well-formed stores only, whatever
hash the store files its types by.
-/
namespace FormRecovery

inductive Operation where
  | declare (name : String) (kind : Kind)
  | apply (function argument : TypeId)
  | applyAll (function : TypeId) (arguments : List TypeId)
  /-- A form with this body. -/
  | form (arity : Nat) (body : Template)
  | instantiate (form : Form) (residuals : List TypeId)

/-- What an operation gives. -/
inductive Answer where
  | type (id : TypeId)
  | form (f : Form)
  deriving DecidableEq

/-- What the answer gives can be used with the store. -/
def Answer.Stands (s : Store) : Answer → Prop
  | type id => id ∈ s
  | form f => f.Valid s

namespace Operation

/-- The types that the operation mentions were given out by the store. -/
def Issued (s : Store) : Operation → Prop
  | declare _ _ => True
  | apply function argument => function ∈ s ∧ argument ∈ s
  | applyAll function arguments => function ∈ s ∧ ∀ x ∈ arguments, x ∈ s
  | form _ body => body.Over s
  | instantiate f residuals => f.body.Over s ∧ ∀ r ∈ residuals, r ∈ s

instance (s : Store) : (op : Operation) → Decidable (op.Issued s)
  | declare _ _ => inferInstanceAs (Decidable True)
  | apply f x => inferInstanceAs (Decidable (f ∈ s ∧ x ∈ s))
  | applyAll f xs => inferInstanceAs (Decidable (f ∈ s ∧ ∀ x ∈ xs, x ∈ s))
  | form _ body => inferInstanceAs (Decidable (body.Over s))
  | instantiate f rs => inferInstanceAs (Decidable (f.body.Over s ∧ ∀ r ∈ rs, r ∈ s))

def run : Operation → Interning FormError Answer
  | declare name kind => EStateM.map .type ((Interning.declare name kind).adaptExcept .kind)
  | apply function argument =>
    EStateM.map .type ((Interning.apply function argument).adaptExcept .kind)
  | applyAll function arguments =>
    EStateM.map .type ((Interning.applyAll function arguments).adaptExcept .kind)
  | form arity body => EStateM.map .form (Form.ofTemplate arity body)
  | instantiate f residuals => EStateM.map .type (f.instantiate residuals)

/-- The store that the operation leaves, on success and on failure alike. -/
def after (op : Operation) (s : Store) : Store :=
  match op.run s with
  | .ok _ t => t
  | .error _ t => t

/-- The forms that the operation makes. -/
def made (op : Operation) (s : Store) : List Form :=
  match op.run s with
  | .ok (.form f) _ => [f]
  | _ => []

theorem keeps_run {s : Store} {op : Operation} (h : op.Issued s) :
    Interning.Keeps op.run s (fun t a => a.Stands t) := by
  cases op with
  | declare name kind =>
    apply ((Interning.keeps_declare name kind).adaptExcept _).map
    intro id t _ hshape
    exact Store.mem_of_shape? hshape
  | apply f x =>
    apply ((Interning.keeps_apply h.1 h.2).adaptExcept _).map
    intro id t _ hshape
    exact Store.mem_of_shape? hshape
  | applyAll f xs =>
    exact ((Interning.keeps_applyAll h.1 h.2).adaptExcept _).map fun _ _ _ hid => hid
  | form arity body => exact (Form.keeps_ofTemplate h arity).map fun _ _ _ hf => hf
  | instantiate f rs => exact (Form.keeps_instantiate h.1 h.2).map fun _ _ _ hid => hid

theorem grows_after {s : Store} {op : Operation} (h : op.Issued s) : s.Grows (op.after s) := by
  unfold after
  cases hr : op.run s with
  | ok a t => exact ((keeps_run h).of_ok hr).1
  | error e t => exact (keeps_run h).of_error hr

theorem valid_made {s : Store} {op : Operation} (h : op.Issued s) :
    ∀ f ∈ op.made s, f.Valid (op.after s) := by
  unfold made after
  cases hr : op.run s with
  | ok a t =>
    have hstands := ((keeps_run h).of_ok hr).2
    cases a with
    | type id => simp
    | form f =>
      intro g hg
      rw [List.mem_singleton.mp hg]
      exact hstands
  | error e t => simp

end Operation

namespace Store

inductive Reaches : Store → Store → Prop where
  | refl (s : Store) : Reaches s s
  | step {s t : Store} (earlier : Reaches s t) (op : Operation) (issued : op.Issued t) :
      Reaches s (op.after t)

/-- A run from an empty store ends here. -/
inductive Reachable : Store → Prop where
  | empty (hash : Shape → UInt64) : Reachable (emptyWith hash)
  | step {s : Store} (earlier : Reachable s) (op : Operation) (issued : op.Issued s) :
      Reachable (op.after s)

theorem Reaches.grows {s t : Store} (h : s.Reaches t) : s.Grows t := by
  induction h with
  | refl => exact .refl _
  | step _ op issued ih => exact ih.trans (Operation.grows_after issued)

theorem Reaches.trans {s t u : Store} (h : s.Reaches t) (h' : t.Reaches u) : s.Reaches u := by
  induction h' with
  | refl => exact h
  | step _ op issued ih => exact .step ih op issued

theorem reachable_empty : Store.empty.Reachable := .empty _

theorem Reachable.trans {s t : Store} (h : s.Reachable) (h' : s.Reaches t) : t.Reachable := by
  induction h' with
  | refl => exact h
  | step _ op issued ih => exact .step ih op issued

theorem Reachable.wellFormed {s : Store} (h : s.Reachable) : s.WellFormed := by
  induction h with
  | empty hash => exact wellFormed_empty hash
  | step _ op issued ih => exact (Operation.grows_after issued).wellFormed ih

/-- A store with `Int`, `String`, `Pair`, `Pair Int String` and `Pair Int Int`. -/
def pairs : Store :=
  let names := (Operation.declare "Pair" (.ofArity 2)).after <|
    (Operation.declare "String" .proper).after <| (Operation.declare "Int" .proper).after empty
  (Operation.applyAll ⟨2⟩ [⟨0⟩, ⟨0⟩]).after <| (Operation.applyAll ⟨2⟩ [⟨0⟩, ⟨1⟩]).after names

theorem reachable_pairs : pairs.Reachable := by
  have hnames := ((reachable_empty.step (.declare "Int" .proper) trivial).step
    (.declare "String" .proper) trivial).step (.declare "Pair" (.ofArity 2)) trivial
  exact (hnames.step (.applyAll ⟨2⟩ [⟨0⟩, ⟨1⟩]) (by decide +kernel)).step
    (.applyAll ⟨2⟩ [⟨0⟩, ⟨0⟩]) (by decide +kernel)

end Store

end FormRecovery
