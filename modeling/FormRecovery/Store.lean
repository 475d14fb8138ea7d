import FormRecovery.Kind

/-!
The store of types. Each entry is a named constructor or an application of two
earlier entries, with its kind; an id is the position of an entry. Beside the
entries the store keeps a table of their ids by the hash of the shape, and a shape
is looked up there only. A shape is stored once, so that equal ids stand for equal
types, and entries are only ever appended, on success and on failure alike.
-/
namespace FormRecovery

/-- The position of a type in its store, counted from zero. -/
structure TypeId where
  index : Nat
  deriving DecidableEq, Inhabited

inductive Shape where
  | constructor (name : String)
  | application (function argument : TypeId)
  deriving DecidableEq

structure Entry where
  shape : Shape
  kind : Kind
  deriving DecidableEq

/-- Ids, each filed under a hash. -/
structure Table where
  filed : List (UInt64 × TypeId) := []
  deriving DecidableEq

namespace Table

def insert (t : Table) (hash : UInt64) (id : TypeId) : Table := ⟨(hash, id) :: t.filed⟩

/-- An id under the hash that the test accepts. -/
def find? (t : Table) (hash : UInt64) (accepts : TypeId → Bool) : Option TypeId :=
  (t.filed.find? fun (h, id) => h == hash && accepts id).map (·.2)

theorem accepted_of_find? {t : Table} {hash : UInt64} {accepts : TypeId → Bool} {id : TypeId}
    (h : t.find? hash accepts = some id) : accepts id = true := by
  obtain ⟨⟨k, i⟩, hfound, rfl⟩ := Option.map_eq_some_iff.mp h
  have htest := List.find?_some hfound
  exact ((Bool.and_eq_true ..).mp htest).2

theorem find?_eq_none_iff {t : Table} {hash : UInt64} {accepts : TypeId → Bool} :
    t.find? hash accepts = none ↔ ∀ id, (hash, id) ∈ t.filed → accepts id = false := by
  simp only [find?, Option.map_eq_none_iff, List.find?_eq_none, Prod.forall, Bool.and_eq_true,
    beq_iff_eq, not_and, Bool.not_eq_true]
  exact ⟨fun h id hid => h hash id hid rfl, fun h k id hid hk => h id (hk ▸ hid)⟩

end Table

structure Store where
  /-- The hash that shapes are filed under. Any function will do. -/
  hash : Shape → UInt64
  entries : Array Entry := #[]
  table : Table := {}

inductive KindError where
  /-- A name was declared again with another kind. -/
  | conflictingDeclaration (name : String) (existing declared : Kind)
  /-- A type of a kind without parameter was applied. -/
  | notAFunction (function : TypeId) (kind : Kind)
  | argumentMismatch (function argument : TypeId) (expected actual : Kind)
  deriving DecidableEq

/-- A step that may append types to the store. A failure keeps what was appended before it. -/
abbrev Interning (ε α : Type) := EStateM ε Store α

namespace Store

/-- The store without types that will file them by this hash. -/
def emptyWith (hash : Shape → UInt64) : Store := { hash }

/-- The empty store that files all types together. -/
def empty : Store := emptyWith fun _ => 0

def size (s : Store) : Nat := s.entries.size

def isEmpty (s : Store) : Bool := s.entries.isEmpty

def get? (s : Store) (id : TypeId) : Option Entry := s.entries[id.index]?

def shape? (s : Store) (id : TypeId) : Option Shape := (s.get? id).map (·.shape)

/-- The kind of a type, if the store issued its id. -/
def kind? (s : Store) (id : TypeId) : Option Kind := (s.get? id).map (·.kind)

/-- The kind of a type of the store. Other ids have no kind, and what they are given here is not to
be read. -/
def kind (s : Store) (id : TypeId) : Kind := (s.kind? id).getD .proper

/-- The type of this shape, as the table has it: the entries are only read to tell apart shapes of
one hash. -/
def lookup (s : Store) (shape : Shape) : Option TypeId :=
  s.table.find? (s.hash shape) fun id => s.shape? id == some shape

def constructor? (s : Store) (name : String) : Option TypeId := s.lookup (.constructor name)

/-- The two sides of an application. -/
def split? (s : Store) (id : TypeId) : Option (TypeId × TypeId) :=
  match s.shape? id with
  | some (.application function argument) => some (function, argument)
  | _ => none

/-- The id that the next entry will have. -/
def next (s : Store) : TypeId := ⟨s.size⟩

/-- Appends an entry and files its id. -/
def push (s : Store) (e : Entry) : Store :=
  { s with entries := s.entries.push e, table := s.table.insert (s.hash e.shape) s.next }

@[simp] theorem hash_push (s : Store) (e : Entry) : (s.push e).hash = s.hash := rfl

@[simp] theorem filed_push (s : Store) (e : Entry) :
    (s.push e).table.filed = (s.hash e.shape, s.next) :: s.table.filed := rfl

/-- An appended entry has the next id, and every other id keeps what it had. -/
theorem get?_push (s : Store) (e : Entry) (id : TypeId) :
    (s.push e).get? id = if id = s.next then some e else s.get? id := by
  obtain ⟨n⟩ := id
  simp [get?, push, next, size, Array.getElem?_push]

@[simp] theorem split?_eq_some_iff (s : Store) (id function argument : TypeId) :
    s.split? id = some (function, argument) ↔
      s.shape? id = some (.application function argument) := by
  unfold split?
  split
  · rename_i f x h
    simp [h]
  · rename_i h
    simpa using h function argument

end Store

/-- A value, and the ids that were looked up in the store for it. -/
structure Reading (α : Type) where
  value : α
  ids : List TypeId

namespace Reading

instance : Monad Reading where
  pure a := ⟨a, []⟩
  bind x f := ⟨(f x.value).value, x.ids ++ (f x.value).ids⟩

variable {α β : Type}

@[simp] theorem value_pure (a : α) : (pure a : Reading α).value = a := rfl

@[simp] theorem value_bind (x : Reading α) (f : α → Reading β) :
    (x >>= f).value = (f x.value).value := rfl

/-- A test of a list stops at the first element that fails. -/
@[simp] theorem value_allM (f : α → Reading Bool) (xs : List α) :
    (xs.allM f).value = xs.all fun a => (f a).value := by
  induction xs with
  | nil => rfl
  | cons a xs ih =>
    rw [List.allM, value_bind, List.all_cons, ← ih]
    cases (f a).value <;> rfl

end Reading

namespace Store

def readKind (s : Store) (id : TypeId) : Reading Kind := ⟨s.kind id, [id]⟩

def readSplit (s : Store) (id : TypeId) : Reading (Option (TypeId × TypeId)) := ⟨s.split? id, [id]⟩

end Store

namespace Interning

/-- Appends an entry and gives its id. -/
def insert {ε : Type} (e : Entry) : Interning ε TypeId :=
  fun s => .ok s.next (s.push e)

/-- Declares a constructor; declaring it again with the same kind gives the same id. -/
def declare (name : String) (kind : Kind) : Interning KindError TypeId := fun s =>
  match s.constructor? name with
  | some id =>
    if s.kind id = kind then .ok id s
    else .error (.conflictingDeclaration name (s.kind id) kind) s
  | none => insert ⟨.constructor name, kind⟩ s

/-- Applies a type to another. A stored application is given back as it is: its kinds were
checked when it was stored. -/
def apply (function argument : TypeId) : Interning KindError TypeId := fun s =>
  match s.lookup (.application function argument) with
  | some id => .ok id s
  | none =>
    match s.kind function with
    | .proper => .error (.notAFunction function .proper) s
    | .arrow parameter result =>
      if parameter = s.kind argument then insert ⟨.application function argument, result⟩ s
      else .error (.argumentMismatch function argument parameter (s.kind argument)) s

/-- Applies a type to arguments one by one, from the left. -/
def applyAll (function : TypeId) (arguments : List TypeId) : Interning KindError TypeId :=
  arguments.foldlM apply function

end Interning

end FormRecovery
