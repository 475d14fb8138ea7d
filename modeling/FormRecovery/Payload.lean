/-!
Payloads that values carry, and conversions between optional and listed ones.
-/
namespace FormRecovery

inductive Payload where
  | int (n : Int)
  | text (t : String)
  | option (inner : Option Payload)
  | list (elements : List Payload)

namespace Payload

/-- An optional payload as a list of at most one element; other payloads stay. -/
def optionToList : Payload → Payload
  | option none => list []
  | option (some inner) => list [inner]
  | p => p

/-- A list as its first element; other payloads stay. -/
def listToOption : Payload → Payload
  | list [] => option none
  | list (first :: _) => option (some first)
  | p => p

@[simp] theorem listToOption_optionToList_option (inner : Option Payload) :
    (option inner).optionToList.listToOption = option inner := by
  cases inner <;> rfl

end Payload

end FormRecovery
