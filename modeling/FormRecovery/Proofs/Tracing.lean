import FormRecovery.Proofs.Correspondence

/-!
What a search reports is what it did. An event tells of each question with the answer it had, and
one more of how the search ended. The level decides which of these events are captured and nothing
else.
-/
namespace FormRecovery

variable {σ ι : Type}

/-- What an event says: its level, its message and its fields in plain text, all of which are in the
line written for it. -/
structure Event.Says (s : Store) (e : Event) (level : Level) (message : String)
    (fields : List (String × String)) : Prop where
  level_eq : e.level = level
  message_eq : e.report.message = message
  fields_eq : (e.fields s).map (fun field => (field.1, field.2.plain)) = fields
  line_eq : e.line s = level.name ++ " " ++ e.request.catalog.span ++ ": " ++ message ++
    String.join (fields.map fun field => " " ++ field.1 ++ "=" ++ field.2)

namespace Event

variable (s : Store) (r : Request)

/-- An event is written as its fields are in plain text. -/
theorem says_of_fields {e : Event} {fields : List (String × String)}
    (h : (e.fields s).map (fun field => (field.1, field.2.plain)) = fields) :
    e.Says s e.level e.report.message fields := by
  subst h
  constructor
  case level_eq => rfl
  case message_eq => rfl
  case fields_eq => rfl
  case line_eq =>
    rw [line, List.map_map]
    rfl

theorem says_attempt (p : Pattern) (f : Form) (found : Bool) :
    (Event.mk r (.attempt p f found)).Says s .trace "attempt"
      [("pattern", p.describe), ("form", f.print s defaultWidth),
        ("found", if found then "true" else "false"),
        ("capability", r.capability.name), ("applied", s.print defaultWidth r.applied)] :=
  says_of_fields s rfl

theorem says_resolved (p : Pattern) (f : Form) (residuals : List TypeId) :
    (Event.mk r (.resolved p f residuals)).Says s .debug "resolved"
      [("pattern", p.describe), ("form", f.print s defaultWidth),
        ("residuals", "[" ++ ", ".intercalate (residuals.map (s.print defaultWidth)) ++ "]"),
        ("capability", r.capability.name), ("applied", s.print defaultWidth r.applied)] :=
  says_of_fields s rfl

theorem says_exhausted (attempted : List Pattern) :
    (Event.mk r (.exhausted attempted)).Says s .debug "no viable decomposition"
      [("attempted", "[" ++ ", ".intercalate (attempted.map Pattern.describe) ++ "]"),
        ("capability", r.capability.name), ("applied", s.print defaultWidth r.applied)] :=
  says_of_fields s rfl

theorem lines_append (es es' : List Event) : lines s (es ++ es') = lines s es ++ lines s es' := by
  simp [lines, String.join_append]

end Event

/-- A question of a search: the candidate asked about, and whether there was an answer. -/
structure Attempt where
  candidate : Candidate
  found : Bool

namespace Attempt

variable (r : Request) (a : Attempt)

def event : Event := ⟨r, .attempt a.candidate.pattern a.candidate.form a.found⟩

def head : InstanceHead := r.head a.candidate

/-- The line in the log of the questions. -/
def line (s : Store) : String := Lookup.logLine s (a.head r) a.found

end Attempt

namespace Survey

variable (v : Survey σ ι)

def attempts : List Attempt :=
  v.missed.map (⟨·, false⟩) ++
    match v.hit with
    | some (c, _) => [⟨c, true⟩]
    | none => []

/-- What is reported in the end. -/
def closing : Report :=
  match v.hit with
  | some (c, _) => .resolved c.pattern c.form c.residuals
  | none => .exhausted (v.missed.map (·.pattern))

theorem level_closing : v.closing.level = .debug := by
  unfold closing
  cases v.hit <;> rfl

theorem events_eq (r : Request) :
    v.events r [] = v.attempts.map (·.event r) ++ [⟨r, v.closing⟩] := by
  unfold events attempts closing
  cases v.hit <;> simp [Attempt.event]

/-- Each question is an attempt, and the other way round. -/
theorem questions_eq (r : Request) :
    (v.questions r).map (fun q => (q.1, q.2.isSome)) =
      v.attempts.map fun a => (a.head r, a.found) := by
  unfold questions attempts
  cases v.hit <;> simp [Attempt.head]

/-- The log has a line for each attempt. -/
theorem log_eq (s : Store) (r : Request) :
    (v.questions r).map (fun q => Lookup.logLine s q.1 q.2.isSome) =
      v.attempts.map (·.line r s) := by
  have hlines := congrArg (List.map fun q => Lookup.logLine s q.1 q.2) (v.questions_eq r)
  rwa [List.map_map, List.map_map] at hlines

end Survey

/-- What is captured at a threshold of a search with these attempts. -/
def Request.captured (r : Request) (attempts : List Attempt) (closing : Report) :
    Option Level → List Event
  | some .trace => attempts.map (·.event r) ++ [⟨r, closing⟩]
  | some .debug => [⟨r, closing⟩]
  | _ => []

theorem Survey.captured_eq (v : Survey σ ι) (r : Request) (t : Session σ) :
    (v.events r []).filter (fun e => t.captures e.level) =
      r.captured v.attempts v.closing t.threshold := by
  have hclosing : (Event.mk r v.closing).level = .debug := v.level_closing
  have hattempts : (fun e : Event => t.captures e.level) ∘ Attempt.event r =
      fun _ => t.captures .trace := rfl
  rw [events_eq, List.filter_append, List.filter_map, List.filter_singleton, hclosing, hattempts]
  unfold Session.captures
  cases t.threshold with
  | none => simp [Request.captured]
  | some level => cases level <;> simp [Level.includes, Level.detail, Request.captured]

/-- How a search ends, and the attempts and the report that belong to it. -/
inductive Request.Ends (s : Store) (r : Request) :
    Except ResolveError (Found ι) → List Attempt → Report → Prop where
  | resolved (missed : List Candidate) (c : Candidate) (value : ι)
      (asked : missed ++ [c] <+: r.candidates s) :
      Ends s r (.ok ⟨c.pattern, value, ⟨r.applied, c.form, c.residuals⟩⟩)
        (missed.map (⟨·, false⟩) ++ [⟨c, true⟩]) (.resolved c.pattern c.form c.residuals)
  | exhausted :
      Ends s r (.error ⟨.noViableDecomposition r.capability r.applied
        ((r.candidates s).map (·.pattern)), [r.catalog.crumb]⟩)
        ((r.candidates s).map (⟨·, false⟩)) (.exhausted ((r.candidates s).map (·.pattern)))

namespace Request.Ends

variable {s : Store} {r : Request} {outcome : Except ResolveError (Found ι)}
  {attempts : List Attempt} {closing : Report}

/-- Only the last attempt may have found something. -/
theorem missed_before (h : r.Ends s outcome attempts closing) :
    ∀ a ∈ attempts.dropLast, a.found = false := by
  cases h with
  | resolved missed c value =>
    rw [List.dropLast_concat]
    simp
  | exhausted =>
    intro a ha
    obtain ⟨c, _, rfl⟩ := List.mem_map.mp (List.dropLast_subset _ ha)
    rfl

theorem found_iff (h : r.Ends s outcome attempts closing) :
    (∃ a ∈ attempts, a.found = true) ↔ ∃ found, outcome = .ok found := by
  cases h with
  | resolved missed c value => simp
  | exhausted => simp

/-- The result of a search is what the last event says. -/
theorem says_resolved (h : r.Ends s outcome attempts closing) {found : Found ι}
    (hfound : outcome = .ok found) : (Event.mk r closing).Says s .debug "resolved"
      [("pattern", found.pattern.describe), ("form", found.equality.form.print s defaultWidth),
        ("residuals",
          "[" ++ ", ".intercalate (found.equality.residuals.map (s.print defaultWidth)) ++ "]"),
        ("capability", r.capability.name), ("applied", s.print defaultWidth r.applied)] := by
  cases h with
  | resolved missed c value =>
    obtain rfl := Except.ok.inj hfound
    exact Event.says_resolved ..
  | exhausted => contradiction

/-- The patterns attempted that an error has are what the last event says. -/
theorem says_exhausted (h : r.Ends s outcome attempts closing) {e : ResolveError}
    (he : outcome = .error e) : ∃ attempted,
      e = ⟨.noViableDecomposition r.capability r.applied attempted, [r.catalog.crumb]⟩ ∧
      (Event.mk r closing).Says s .debug "no viable decomposition"
        [("attempted", "[" ++ ", ".intercalate (attempted.map Pattern.describe) ++ "]"),
          ("capability", r.capability.name), ("applied", s.print defaultWidth r.applied)] := by
  cases h with
  | resolved missed c value => contradiction
  | exhausted =>
    obtain rfl := Except.error.inj he
    exact ⟨_, rfl, Event.says_exhausted ..⟩

end Request.Ends

theorem Survey.ends (s : Store) (lookup : Lookup σ ι) (r : Request) (m : σ) :
    r.Ends s ((survey lookup r (r.candidates s) m).ending r)
      (survey lookup r (r.candidates s) m).attempts
      (survey lookup r (r.candidates s) m).closing := by
  cases hhit : (survey lookup r (r.candidates s) m).hit with
  | none =>
    have hmissed := missed_of_hit_none lookup r _ m hhit
    simp only [ending, attempts, closing, hhit, hmissed, List.append_nil]
    exact .exhausted
  | some hit =>
    obtain ⟨c, value⟩ := hit
    obtain ⟨rest, hsplit⟩ := split_of_hit lookup r _ m c value hhit
    simp only [ending, attempts, closing, hhit]
    exact .resolved _ c value ⟨rest, (List.append_cons ..).symm.trans hsplit.symm⟩

/-- Under a record and a log of the questions the same is asked, and the log has a line for each
attempt. -/
theorem survey_observed (s : Store) (lookup : Lookup σ ι) (r : Request) (cs : List Candidate)
    (m : σ) : survey (lookup.recorded.logged s) r cs ((m, []), []) =
      ⟨(survey lookup r cs m).missed, (survey lookup r cs m).hit,
        ((survey lookup r cs m).memory, (survey lookup r cs m).questions r),
        (survey lookup r cs m).attempts.map (·.line r s)⟩ := by
  have hlogged :=
    survey_noted (fun q => Lookup.logLine s q.1 q.2.isSome) lookup.recorded r cs (m, []) []
  rw [survey_recorded, List.nil_append, List.nil_append] at hlogged
  rw [← Survey.log_eq]
  exact hlogged

/-- A search reports what it did and does nothing else for it. Whatever is captured, it asks the
same of the service, with the same answers, and ends alike. At the most detailed level there is an
event for each question, as in the log of the questions, and one for the end; at the next level
there is the last one only, and at the others none. Nothing is found before the last attempt, and
there only if the search succeeds. An attempt says the pattern and the form asked about and whether
there was an answer; the last event says the pattern, the form and the residuals of the result, or
the patterns attempted that the error has. The text written for it has a line for each event. -/
theorem trace_tells_search (s : Store) (lookup : Lookup σ ι) (r : Request) (m : σ) :
    ∃ (outcome : Except ResolveError (Found ι)) (attempts : List Attempt) (closing : Report)
      (asked : List (InstanceHead × Option ι)) (memory : σ),
      r.Ends s outcome attempts closing ∧
      (∀ a ∈ attempts.dropLast, a.found = false) ∧
      ((∃ a ∈ attempts, a.found = true) ↔ ∃ found, outcome = .ok found) ∧
      asked.map (fun q => (q.1, q.2.isSome)) = attempts.map (fun a => (a.head r, a.found)) ∧
      (∀ a ∈ attempts, (a.event r).Says s .trace "attempt"
        [("pattern", a.candidate.pattern.describe),
          ("form", a.candidate.form.print s defaultWidth),
          ("found", if a.found then "true" else "false"),
          ("capability", r.capability.name), ("applied", s.print defaultWidth r.applied)]) ∧
      (∀ found, outcome = .ok found → (Event.mk r closing).Says s .debug "resolved"
        [("pattern", found.pattern.describe),
          ("form", found.equality.form.print s defaultWidth),
          ("residuals",
            "[" ++ ", ".intercalate (found.equality.residuals.map (s.print defaultWidth)) ++ "]"),
          ("capability", r.capability.name), ("applied", s.print defaultWidth r.applied)]) ∧
      (∀ e, outcome = .error e → ∃ attempted,
        e = ⟨.noViableDecomposition r.capability r.applied attempted, [r.catalog.crumb]⟩ ∧
        (Event.mk r closing).Says s .debug "no viable decomposition"
          [("attempted", "[" ++ ", ".intercalate (attempted.map Pattern.describe) ++ "]"),
            ("capability", r.capability.name), ("applied", s.print defaultWidth r.applied)]) ∧
      ∀ threshold captured,
        let plain := search s lookup r ⟨m, threshold, captured⟩
        let observed := search s (lookup.recorded.logged s) r ⟨((m, []), []), threshold, captured⟩
        Resolving.outcome plain = outcome ∧ Resolving.outcome observed = outcome ∧
        Resolving.left plain =
          ⟨memory, threshold, captured ++ r.captured attempts closing threshold⟩ ∧
        Resolving.left observed = ⟨((memory, asked), attempts.map (·.line r s)), threshold,
          captured ++ r.captured attempts closing threshold⟩ ∧
        Event.lines s (Resolving.left plain).captured = Event.lines s captured ++
          String.join ((r.captured attempts closing threshold).map fun e => e.line s ++ "\n") := by
  let v := survey lookup r (r.candidates s) m
  have hends : r.Ends s (v.ending r) v.attempts v.closing := Survey.ends s lookup r m
  refine ⟨v.ending r, v.attempts, v.closing, v.questions r, v.memory, hends, hends.missed_before,
    hends.found_iff, v.questions_eq r, fun _ _ => Event.says_attempt s r _ _ _, ?_, ?_, ?_⟩
  · intro found h
    exact hends.says_resolved h
  · intro e h
    exact hends.says_exhausted h
  · intro threshold captured plain observed
    have hplain := v.captured_eq r ⟨m, threshold, captured⟩
    have hobserved := survey_observed s lookup r (r.candidates s) m
    refine ⟨Resolving.outcome_search .., ?_, ?_, ?_, ?_⟩
    · rw [Resolving.outcome_search, hobserved]
      rfl
    · rw [Resolving.left_search, Session.after, hplain]
    · rw [Resolving.left_search, hobserved, Session.after]
      exact congrArg _ (congrArg _ hplain)
    · rw [Resolving.left_search, Session.after, hplain, Event.lines_append]
      rfl

/-- The search for a functor at `Pair Int String`, when the only one is at `\a -> Pair Int a`. -/
def functorSearch (threshold : Level) : EStateM.Result ResolveError (Session Unit) (Found String) :=
  search Store.pairs (Environment.empty.register .pairSecond "second").lookup
    ⟨.single, ⟨"Functor"⟩, ⟨4⟩⟩ ⟨(), some threshold, []⟩

def functorLines : List String :=
  ["TRACE resolve_single: attempt pattern=binary-first form=\\a -> Pair a String found=false " ++
    "capability=Functor applied=Pair Int String",
   "TRACE resolve_single: attempt pattern=binary-second form=\\a -> Pair Int a found=true " ++
    "capability=Functor applied=Pair Int String",
   "DEBUG resolve_single: resolved pattern=binary-second form=\\a -> Pair Int a " ++
    "residuals=[String] capability=Functor applied=Pair Int String"]

/-- One form is asked about in vain and the next one is found. Of the three lines that tell of it
the last one is left at the next level, and nothing is left at the level after that, where the same
is found. -/
theorem trace_of_pair_int_string :
    (Resolving.left (functorSearch .trace)).captured.map (·.line Store.pairs) = functorLines ∧
    Event.lines Store.pairs (Resolving.left (functorSearch .trace)).captured =
      String.join (functorLines.map (· ++ "\n")) ∧
    (Resolving.left (functorSearch .debug)).captured.map (·.line Store.pairs) =
      functorLines.drop 2 ∧
    (Resolving.left (functorSearch .info)).captured = [] ∧
    Resolving.outcome (functorSearch .info) =
      .ok ⟨.binarySecond, "second", ⟨⟨4⟩, InstanceHead.pairSecond.form, [⟨1⟩]⟩⟩ := by
  have hlines : (Resolving.left (functorSearch .trace)).captured.map (·.line Store.pairs) =
      functorLines := by decide +kernel
  obtain ⟨outcome, attempts, closing, _, memory, _, _, _, _, _, _, _, hrun⟩ := trace_tells_search
    Store.pairs (Environment.empty.register .pairSecond "second").lookup
    ⟨.single, ⟨"Functor"⟩, ⟨4⟩⟩ ()
  have htrace : Resolving.left (functorSearch .trace) = _ := (hrun (some .trace) []).2.2.1
  have hdebug : Resolving.left (functorSearch .debug) = _ := (hrun (some .debug) []).2.2.1
  have hinfo : Resolving.left (functorSearch .info) = _ := (hrun (some .info) []).2.2.1
  have hsame : Resolving.outcome (functorSearch .info) = Resolving.outcome (functorSearch .trace) :=
    (hrun (some .info) []).1.trans (hrun (some .trace) []).1.symm
  have htext : Event.lines Store.pairs (Resolving.left (functorSearch .trace)).captured = _ :=
    (hrun (some .trace) []).2.2.2.2
  refine ⟨hlines, ?_, ?_, by rw [hinfo]; rfl, hsame.trans (by decide +kernel)⟩
  · rw [htext, ← hlines, htrace, List.map_map]
    rfl
  · -- the last of the three lines is the one that is left
    have hlast := congrArg List.getLast? hlines
    rw [htrace] at hlast
    rw [hdebug]
    simpa [Request.captured, functorLines] using hlast

end FormRecovery
