import FormRecovery.Printing
import FormRecovery.Resolution.Request
import FormRecovery.Text.Quoted

/-!
What a search reports about itself, and the lines written for it.
-/
namespace FormRecovery

/-- How much is to be reported: each level includes the ones before it. -/
inductive Level where
  | error
  | warn
  | info
  | debug
  | trace
  deriving DecidableEq

namespace Level

def detail : Level → Nat
  | error => 0
  | warn => 1
  | info => 2
  | debug => 3
  | trace => 4

def name : Level → String
  | error => "ERROR"
  | warn => "WARN"
  | info => "INFO"
  | debug => "DEBUG"
  | trace => "TRACE"

/-- Whether a report at this threshold includes an event of the level. -/
def includes (threshold level : Level) : Bool := level.detail ≤ threshold.detail

end Level

inductive Report where
  /-- A candidate was looked up. -/
  | attempt (pattern : Pattern) (form : Form) (found : Bool)
  | resolved (pattern : Pattern) (form : Form) (residuals : List TypeId)
  /-- No candidate has an instance. -/
  | exhausted (attempted : List Pattern)
  deriving DecidableEq

structure Event where
  request : Request
  report : Report
  deriving DecidableEq

/-- A value as a report shows it, plain or quoted. -/
structure Shown where
  plain : String
  deriving DecidableEq

namespace Shown

def quoted (v : Shown) : String := Text.quoted v.plain

def bracketed (texts : List String) : Shown := ⟨"[" ++ String.intercalate ", " texts ++ "]"⟩

def type (s : Store) (id : TypeId) : Shown := ⟨s.print defaultWidth id⟩

def types (s : Store) (ids : List TypeId) : Shown := bracketed (ids.map (s.print defaultWidth))

def form (s : Store) (f : Form) : Shown := ⟨f.print s defaultWidth⟩

def pattern (p : Pattern) : Shown := ⟨p.describe⟩

def patterns (ps : List Pattern) : Shown := bracketed (ps.map Pattern.describe)

def capability (c : Capability) : Shown := ⟨c.name⟩

def truth (b : Bool) : Shown := ⟨if b then "true" else "false"⟩

/-- A text is shown in quotes. -/
def text (t : String) : Shown := ⟨Text.quoted t⟩

def number? : Option Int → Shown
  | some n => ⟨"Some(" ++ toString n ++ ")"⟩
  | none => ⟨"None"⟩

end Shown

namespace Report

def level : Report → Level
  | attempt _ _ _ => .trace
  | resolved _ _ _ => .debug
  | exhausted _ => .debug

def message : Report → String
  | attempt _ _ _ => "attempt"
  | resolved _ _ _ => "resolved"
  | exhausted _ => "no viable decomposition"

def fields (s : Store) : Report → List (String × Shown)
  | attempt pattern form found =>
    [("pattern", .pattern pattern), ("form", .form s form), ("found", .truth found)]
  | resolved pattern form residuals =>
    [("pattern", .pattern pattern), ("form", .form s form), ("residuals", .types s residuals)]
  | exhausted attempted => [("attempted", .patterns attempted)]

end Report

/-- The name of the span that a search of the catalog runs in. -/
def Catalog.span : Catalog → String
  | .single => "resolve_single"
  | .dual => "resolve_dual"
  | .nested => "resolve_nested"

namespace Event

def level (e : Event) : Level := e.report.level

/-- The fields of the report, then those of the request. -/
def fields (s : Store) (e : Event) : List (String × Shown) :=
  e.report.fields s ++
    [("capability", .capability e.request.capability), ("applied", .type s e.request.applied)]

/-- Level, span, message and fields. -/
def line (s : Store) (e : Event) : String :=
  e.level.name ++ " " ++ e.request.catalog.span ++ ": " ++ e.report.message ++
    String.join ((e.fields s).map fun (name, value) => " " ++ name ++ "=" ++ value.plain)

/-- A line for each event. -/
def lines (s : Store) (events : List Event) : String :=
  String.join (events.map fun e => e.line s ++ "\n")

end Event

end FormRecovery
