import FormRecovery.Text.Extending
import FormRecovery.Text.Unprintable

/-!
Quoted text: in double quotes, with escapes for the quote, the backslash, the usual
controls, and as `\u{...}` for every other character that has no printed form of its
own or is drawn on the character before it.
-/
namespace FormRecovery.Text

/-- The code point in lowercase hexadecimal without leading zeros. -/
def codePoint (c : Char) : String := String.ofList (Nat.toDigits 16 c.toNat)

def escape (c : Char) : String :=
  match c with
  | '\x00' => "\\0"
  | '\t' => "\\t"
  | '\r' => "\\r"
  | '\n' => "\\n"
  | '"' => "\\\""
  | '\\' => "\\\\"
  | c =>
    if extending.contains c || unprintable.contains c then "\\u\x7b" ++ codePoint c ++ "\x7d"
    else String.singleton c

def quoted (s : String) : String := "\"" ++ String.join (s.toList.map escape) ++ "\""

end FormRecovery.Text
