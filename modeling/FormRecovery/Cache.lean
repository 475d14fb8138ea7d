import FormRecovery.Resolution.Search

/-!
A memory of single-hole resolutions, failures included. Its answers are those of the store
and the service that first filled it: it does not notice instances registered later.
-/
namespace FormRecovery

structure CacheKey where
  capability : Capability
  applied : TypeId
  deriving DecidableEq

structure Cache (ι : Type) where
  entries : List (CacheKey × Except ResolveError (Resolution ι)) := []
  /-- Requests answered from the entries. -/
  hits : Nat := 0

namespace Cache

variable {σ ι : Type}

def empty : Cache ι := {}

def get? (c : Cache ι) (key : CacheKey) : Option (Except ResolveError (Resolution ι)) :=
  (c.entries.find? (·.1 == key)).map (·.2)

def size (c : Cache ι) : Nat := c.entries.length

def isEmpty (c : Cache ι) : Bool := c.entries.isEmpty

def request (key : CacheKey) : Request := ⟨.single, key.capability, key.applied⟩

/-- Answers from an entry if there is one; else resolves and keeps the result. -/
def resolve (c : Cache ι) (s : Store) (lookup : Lookup σ ι) (key : CacheKey)
    (t : Session σ) : Except ResolveError (Resolution ι) × Cache ι × Session σ :=
  match c.get? key with
  | some result => (result, { c with hits := c.hits + 1 }, t)
  | none =>
    let (result, t) :=
      match FormRecovery.resolve s lookup (request key) t with
      | .ok resolution t => (Except.ok resolution, t)
      | .error e t => (Except.error e, t)
    (result, { c with entries := (key, result) :: c.entries }, t)

/-- Forgets the entries and the count of hits. -/
def clear (_ : Cache ι) : Cache ι := empty

end Cache

end FormRecovery
