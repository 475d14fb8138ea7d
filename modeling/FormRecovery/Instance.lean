import FormRecovery.Form

/-!
Instances: what a host registers for a capability at a form, and looks up by the exact
head under which it was registered.
-/
namespace FormRecovery

/-- The name of an interface, such as `Functor`. Names are only compared. -/
structure Capability where
  name : String
  deriving DecidableEq

/-- The key of an instance: a capability, a form, and the further type arguments of the
capability if it has any. -/
structure InstanceHead where
  capability : Capability
  form : Form
  arguments : List TypeId := []
  deriving DecidableEq

/-- Registered instances, the latest first, with at most one for each head. -/
structure Environment (ι : Type) where
  entries : List (InstanceHead × ι) := []

namespace Environment

variable {ι : Type}

def empty : Environment ι := {}

def get? (env : Environment ι) (head : InstanceHead) : Option ι :=
  (env.entries.find? (·.1 == head)).map (·.2)

/-- Registers an instance in place of the one that the head had. -/
def register (env : Environment ι) (head : InstanceHead) (value : ι) : Environment ι :=
  ⟨(head, value) :: env.entries.filter (·.1 != head)⟩

def size (env : Environment ι) : Nat := env.entries.length

def isEmpty (env : Environment ι) : Bool := env.entries.isEmpty

/-- One instance of a capability for each of the forms. -/
def ofForms (capability : Capability) (forms : List Form) (value : ι) : Environment ι :=
  forms.foldl (fun env form => env.register ⟨capability, form, []⟩ value) empty

theorem get?_register (env : Environment ι) (head other : InstanceHead) (i : ι) :
    (env.register head i).get? other = if head = other then some i else env.get? other := by
  by_cases h : head = other
  · simp [register, get?, h]
  · simp only [register, get?, h, if_false]
    rw [List.find?_cons_of_neg (by simpa using h)]
    induction env.entries with
    | nil => rfl
    | cons e rest ih =>
      by_cases he : e.1 = head
      · have ho : ¬ e.1 = other := by rw [he]; exact h
        rw [List.filter_cons_of_neg (by simpa using he), List.find?_cons_of_neg (by simpa using ho)]
        exact ih
      · rw [List.filter_cons_of_pos (by simpa using he)]
        by_cases ho : e.1 = other
        · rw [List.find?_cons_of_pos (by simpa using ho),
            List.find?_cons_of_pos (by simpa using ho)]
        · rw [List.find?_cons_of_neg (by simpa using ho),
            List.find?_cons_of_neg (by simpa using ho)]
          exact ih

end Environment

/-- A service with a memory `σ` that answers which instance a head has. Its answers may depend
on the questions asked before. -/
abbrev Lookup (σ ι : Type) := InstanceHead → StateM σ (Option ι)

/-- An environment as a service that remembers nothing. -/
def Environment.lookup {σ ι : Type} (env : Environment ι) : Lookup σ ι :=
  fun head => pure (env.get? head)

end FormRecovery
