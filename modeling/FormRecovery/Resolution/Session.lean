import FormRecovery.Resolution.Error
import FormRecovery.Resolution.Event

/-!
What a resolution runs in: the memory of the lookup service that it asks, and the events
captured so far. Asking and reporting do not touch each other.
-/
namespace FormRecovery

structure Session (σ : Type) where
  memory : σ
  /-- Events up to this level are captured; without a threshold none are. -/
  threshold : Option Level := none
  captured : List Event := []

/-- A step of a resolution. What was asked and reported before a failure stays. -/
abbrev Resolving (σ α : Type) := EStateM ResolveError (Session σ) α

namespace Session

variable {σ : Type}

def captures (t : Session σ) (level : Level) : Bool :=
  match t.threshold with
  | some threshold => threshold.includes level
  | none => false

def record (t : Session σ) (e : Event) : Session σ :=
  if t.captures e.level then { t with captured := t.captured ++ [e] } else t

end Session

namespace Resolving

variable {σ ι α : Type}

/-- Asks the service for the instance of a head. -/
def ask (lookup : Lookup σ ι) (head : InstanceHead) : Resolving σ (Option ι) := fun t =>
  let (answer, memory) := (lookup head).run t.memory
  .ok answer { t with memory }

def emit (e : Event) : Resolving σ Unit := fun t => .ok () (t.record e)

/-- Marks a failure inside as part of a step. -/
def within (crumb : Crumb) (x : Resolving σ α) : Resolving σ α := x.adaptExcept (·.within crumb)

end Resolving

/-- The line that tells of a question and whether it had an answer. -/
def Lookup.logLine (s : Store) (head : InstanceHead) (found : Bool) : String :=
  head.capability.name ++ " (" ++ head.form.print s defaultWidth ++ "): " ++
    if found then "found" else "missing"

/-- The service with a log of its questions. -/
def Lookup.logged {σ ι : Type} (s : Store) (lookup : Lookup σ ι) :
    Lookup (σ × List String) ι := fun head (memory, log) =>
  let (answer, memory) := (lookup head).run memory
  (answer, memory, log ++ [Lookup.logLine s head answer.isSome])

end FormRecovery
