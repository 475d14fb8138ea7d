import FormRecovery.Proofs.Candidates
import FormRecovery.Resolution.Search

/-!
The reference for a search: ask for the heads of the candidates in turn until one is answered.
Every candidate gives its type back, so a search does exactly this and reports it, whatever the
service answers and remembers.
-/
namespace FormRecovery

variable {σ ι : Type}

/-- What asking in turn gives: the candidates without an answer, then the one with an answer, and
the memory of the service in the end. -/
structure Survey (σ ι : Type) where
  missed : List Candidate
  hit : Option (Candidate × ι)
  memory : σ

def survey (lookup : Lookup σ ι) (r : Request) : List Candidate → σ → Survey σ ι
  | [], m => ⟨[], none, m⟩
  | c :: rest, m =>
    match (lookup (r.head c)).run m with
    | (some value, m) => ⟨[], some (c, value), m⟩
    | (none, m) =>
      let v := survey lookup r rest m
      ⟨c :: v.missed, v.hit, v.memory⟩

/-- The session with this memory and with more events reported. -/
def Session.after (t : Session σ) (memory : σ) (events : List Event) : Session σ :=
  ⟨memory, t.threshold, t.captured ++ events.filter fun e => t.captures e.level⟩

namespace Survey

/-- The events of a search: one for each question, then one for its end. -/
def events (r : Request) (attempted : List Pattern) (v : Survey σ ι) : List Event :=
  v.missed.map (fun c => ⟨r, .attempt c.pattern c.form false⟩) ++
    match v.hit with
    | some (c, _) =>
      [⟨r, .attempt c.pattern c.form true⟩, ⟨r, .resolved c.pattern c.form c.residuals⟩]
    | none => [⟨r, .exhausted (attempted ++ v.missed.map (·.pattern))⟩]

/-- The result of a search that asked these questions. -/
def conclude (r : Request) (attempted : List Pattern) (v : Survey σ ι) (t : Session σ) :
    EStateM.Result ResolveError (Session σ) (Found ι) :=
  match v.hit with
  | some (c, value) =>
    .ok ⟨c.pattern, value, ⟨r.applied, c.form, c.residuals⟩⟩
      (t.after v.memory (v.events r attempted))
  | none =>
    .error ⟨.noViableDecomposition r.capability r.applied (attempted ++ v.missed.map (·.pattern)),
      [r.catalog.crumb]⟩ (t.after v.memory (v.events r attempted))

/-- What a search that asked these questions ends with. -/
def ending (r : Request) (v : Survey σ ι) : Except ResolveError (Found ι) :=
  match v.hit with
  | some (c, value) => .ok ⟨c.pattern, value, ⟨r.applied, c.form, c.residuals⟩⟩
  | none => .error ⟨.noViableDecomposition r.capability r.applied (v.missed.map (·.pattern)),
      [r.catalog.crumb]⟩

end Survey

namespace Session

theorem record_eq_after (t : Session σ) (memory : σ) (e : Event) :
    ({ t with memory := memory } : Session σ).record e = t.after memory [e] := by
  unfold record after captures
  cases t.threshold with
  | none => simp
  | some threshold => cases h : threshold.includes e.level <;> simp [h]

theorem after_after (t : Session σ) (memory memory' : σ) (es es' : List Event) :
    (t.after memory es).after memory' es' = t.after memory' (es ++ es') := by
  simp [after, captures]

end Session

namespace Survey

/-- A question without an answer comes before those that follow it. -/
theorem conclude_after_miss (r : Request) (c : Candidate) (attempted : List Pattern)
    (v : Survey σ ι) (t : Session σ) (memory : σ) :
    v.conclude r (attempted ++ [c.pattern])
        (t.after memory [⟨r, .attempt c.pattern c.form false⟩]) =
      (Survey.mk (c :: v.missed) v.hit v.memory).conclude r attempted t := by
  have hattempted : attempted ++ [c.pattern] ++ v.missed.map (·.pattern) =
      attempted ++ (c :: v.missed).map (·.pattern) := by simp
  unfold conclude events
  cases v.hit with
  | none =>
    simp only [hattempted, Session.after_after, List.map_cons, List.cons_append, List.nil_append]
  | some found =>
    simp only [Session.after_after, List.map_cons, List.cons_append, List.nil_append]

end Survey

/-- Every candidate gives its type back, so trying the patterns is asking for the candidates in
turn. -/
theorem searchFrom_eq (s : Store) (lookup : Lookup σ ι) (r : Request) (ps attempted : List Pattern)
    (t : Session σ) :
    searchFrom s lookup r ps attempted t =
      (survey lookup r (ps.filterMap (·.candidate? s r.applied)) t.memory).conclude
        r attempted t := by
  induction ps generalizing attempted t with
  | nil =>
    have hlast := Session.record_eq_after t t.memory ⟨r, .exhausted attempted⟩
    simp only [List.filterMap_nil, survey, Survey.conclude, Survey.events, List.map_nil,
      List.nil_append, List.append_nil]
    rw [← hlast]
    rfl
  | cons p rest ih =>
    cases hp : p.candidate? s r.applied with
    | none =>
      simp only [searchFrom, hp, List.filterMap_cons_none]
      exact ih attempted t
    | some c =>
      obtain rfl : c.pattern = p := Pattern.pattern_of_candidate? hp
      have hcertify :=
        Equality.certify_eq_some_iff.mpr ⟨Pattern.reconstructs_of_candidate? hp, rfl⟩
      have hfirst (answer : Option ι) (m : σ) :=
        Session.record_eq_after t m ⟨r, .attempt c.pattern c.form answer.isSome⟩
      rw [List.filterMap_cons_some hp]
      cases hanswer : (lookup (r.head c)).run t.memory with
      | mk answer m =>
        simp only [searchFrom, hp, bind, EStateM.bind, Resolving.ask, hanswer,
          Resolving.emit, hfirst]
        cases answer with
        | none =>
          dsimp only
          rw [ih]
          simp only [survey, hanswer]
          exact Survey.conclude_after_miss r c attempted _ t m
        | some value =>
          have hlast := Session.record_eq_after (t.after m [⟨r, .attempt c.pattern c.form true⟩]) m
            ⟨r, .resolved c.pattern c.form c.residuals⟩
          simp only [hcertify, survey, hanswer, Survey.conclude, Survey.events]
          rw [Session.after_after] at hlast
          exact congrArg _ hlast

theorem search_eq (s : Store) (lookup : Lookup σ ι) (r : Request) (t : Session σ) :
    search s lookup r t = (survey lookup r (r.candidates s) t.memory).conclude r [] t :=
  searchFrom_eq ..

namespace Survey

theorem missed_of_hit_none (lookup : Lookup σ ι) (r : Request) (cs : List Candidate) (m : σ)
    (h : (survey lookup r cs m).hit = none) : (survey lookup r cs m).missed = cs := by
  induction cs generalizing m with
  | nil => rfl
  | cons c rest ih =>
    unfold survey at h ⊢
    split at h
    · contradiction
    · next m' _ => exact congrArg (c :: ·) (ih m' h)

theorem split_of_hit (lookup : Lookup σ ι) (r : Request) (cs : List Candidate) (m : σ)
    (c : Candidate) (value : ι) (h : (survey lookup r cs m).hit = some (c, value)) :
    ∃ rest, cs = (survey lookup r cs m).missed ++ c :: rest := by
  induction cs generalizing m with
  | nil => contradiction
  | cons b rest ih =>
    unfold survey at h ⊢
    split at h
    · obtain ⟨rfl, rfl⟩ := Prod.mk.inj (Option.some.inj h)
      exact ⟨rest, rfl⟩
    · next m' _ =>
      obtain ⟨rest', hrest⟩ := ih m' h
      exact ⟨rest', congrArg (b :: ·) hrest⟩

/-- The questions asked, with their answers. -/
def questions (r : Request) (v : Survey σ ι) : List (InstanceHead × Option ι) :=
  v.missed.map (fun c => (r.head c, none)) ++
    match v.hit with
    | some (c, value) => [(r.head c, some value)]
    | none => []

end Survey

section

variable {s : Store} {lookup : Lookup σ ι} {r : Request} {t : Session σ}

/-- Without an answer a search fails with the patterns of all candidates. -/
theorem search_of_miss (h : (survey lookup r (r.candidates s) t.memory).hit = none) :
    search s lookup r t = .error ⟨.noViableDecomposition r.capability r.applied
        ((r.candidates s).map (·.pattern)), [r.catalog.crumb]⟩
      (t.after (survey lookup r (r.candidates s) t.memory).memory
        ((survey lookup r (r.candidates s) t.memory).events r [])) := by
  rw [search_eq]
  simp only [Survey.conclude, h, Survey.missed_of_hit_none lookup r _ _ h, List.nil_append]

/-- A search gives the candidate with an answer. -/
theorem search_of_hit {c : Candidate} {value : ι}
    (h : (survey lookup r (r.candidates s) t.memory).hit = some (c, value)) :
    search s lookup r t = .ok ⟨c.pattern, value, ⟨r.applied, c.form, c.residuals⟩⟩
      (t.after (survey lookup r (r.candidates s) t.memory).memory
        ((survey lookup r (r.candidates s) t.memory).events r [])) := by
  rw [search_eq]
  simp only [Survey.conclude, h]

end

theorem resolve_eq (s : Store) (lookup : Lookup σ ι) (r : Request) (t : Session σ) :
    resolve s lookup r t = match search s lookup r t with
      | .ok found t' => .ok ⟨found.pattern, r.capability, found.value, found.equality⟩ t'
      | .error e t' => .error e t' := by
  simp only [resolve, bind, EStateM.bind]
  cases search s lookup r t <;> rfl

/-- The service with a record of its questions and answers. -/
def Lookup.recorded (lookup : Lookup σ ι) : Lookup (σ × List (InstanceHead × Option ι)) ι :=
  fun head (memory, asked) =>
    let (answer, memory) := (lookup head).run memory
    (answer, memory, asked ++ [(head, answer)])

/-- The session without the record. -/
def Session.unrecorded {τ : Type} (t : Session (σ × τ)) : Session σ :=
  ⟨t.memory.1, t.threshold, t.captured⟩

/-- The service that notes something of each question and answer. -/
def Lookup.noted {τ : Type} (note : InstanceHead × Option ι → τ) (lookup : Lookup σ ι) :
    Lookup (σ × List τ) ι := fun head (memory, notes) =>
  let (answer, memory) := (lookup head).run memory
  (answer, memory, notes ++ [note (head, answer)])

/-- Notes do not change what is asked, and there is one for each question. -/
theorem survey_noted {τ : Type} (note : InstanceHead × Option ι → τ) (lookup : Lookup σ ι)
    (r : Request) (cs : List Candidate) (m : σ) (notes : List τ) :
    survey (lookup.noted note) r cs (m, notes) =
      ⟨(survey lookup r cs m).missed, (survey lookup r cs m).hit, (survey lookup r cs m).memory,
        notes ++ ((survey lookup r cs m).questions r).map note⟩ := by
  induction cs generalizing m notes with
  | nil => simp [survey, Survey.questions]
  | cons c rest ih =>
    cases hanswer : (lookup (r.head c)).run m with
    | mk answer m' =>
      have hnoted : (lookup.noted note (r.head c)).run (m, notes) =
          (answer, m', notes ++ [note (r.head c, answer)]) := by
        change (let (answer, memory) := (lookup (r.head c)).run m
          (answer, memory, notes ++ [note (r.head c, answer)])) = _
        rw [hanswer]
      cases answer with
      | none => simp [survey, hanswer, hnoted, ih, Survey.questions]
      | some value => simp [survey, hanswer, hnoted, Survey.questions]

/-- A record does not change what is asked, and keeps just that. -/
theorem survey_recorded (lookup : Lookup σ ι) (r : Request) (cs : List Candidate) (m : σ)
    (asked : List (InstanceHead × Option ι)) :
    survey lookup.recorded r cs (m, asked) =
      ⟨(survey lookup r cs m).missed, (survey lookup r cs m).hit, (survey lookup r cs m).memory,
        asked ++ (survey lookup r cs m).questions r⟩ := by
  have hnoted := survey_noted id lookup r cs m asked
  rwa [List.map_id] at hnoted

namespace Resolving

variable {α : Type}

/-- What a step gives, whatever session it leaves. -/
def outcome : EStateM.Result ResolveError (Session σ) α → Except ResolveError α
  | .ok a _ => .ok a
  | .error e _ => .error e

/-- The session that a step leaves, on success and on failure alike. -/
def left : EStateM.Result ResolveError (Session σ) α → Session σ
  | .ok _ t => t
  | .error _ t => t

theorem eq_ok_of_outcome {x : EStateM.Result ResolveError (Session σ) α} {a : α}
    (h : outcome x = .ok a) : x = .ok a (left x) := by
  cases x with
  | ok b t => rw [Except.ok.inj h, left]
  | error e t => contradiction

theorem eq_error_of_outcome {x : EStateM.Result ResolveError (Session σ) α} {e : ResolveError}
    (h : outcome x = .error e) : x = .error e (left x) := by
  cases x with
  | ok b t => contradiction
  | error e' t => rw [Except.error.inj h, left]

theorem outcome_search (s : Store) (lookup : Lookup σ ι) (r : Request) (t : Session σ) :
    outcome (search s lookup r t) = (survey lookup r (r.candidates s) t.memory).ending r := by
  rw [search_eq, Survey.conclude, Survey.ending]
  cases (survey lookup r (r.candidates s) t.memory).hit <;> rfl

theorem left_search (s : Store) (lookup : Lookup σ ι) (r : Request) (t : Session σ) :
    left (search s lookup r t) = t.after (survey lookup r (r.candidates s) t.memory).memory
      ((survey lookup r (r.candidates s) t.memory).events r []) := by
  rw [search_eq, Survey.conclude]
  cases (survey lookup r (r.candidates s) t.memory).hit <;> rfl

theorem outcome_resolve (s : Store) (lookup : Lookup σ ι) (r : Request) (t : Session σ) :
    outcome (resolve s lookup r t) = (outcome (search s lookup r t)).map fun found =>
      ⟨found.pattern, r.capability, found.value, found.equality⟩ := by
  rw [resolve_eq]
  cases search s lookup r t <;> rfl

theorem left_resolve (s : Store) (lookup : Lookup σ ι) (r : Request) (t : Session σ) :
    left (resolve s lookup r t) = left (search s lookup r t) := by
  rw [resolve_eq]
  cases search s lookup r t <;> rfl

end Resolving

end FormRecovery
