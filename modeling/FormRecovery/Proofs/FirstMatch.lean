import FormRecovery.Proofs.Reachability
import FormRecovery.Proofs.Survey

/-!
A search is the first match: it asks for the heads of the candidates in the order of the catalog
and stops at the first answer. This holds in every store and for every service.
-/
namespace FormRecovery

variable {σ ι : Type}

theorem Catalog.head_of_ne_nested {k : Catalog} (hk : k ≠ .nested) (capability : Capability)
    (c : Candidate) : k.head capability c = ⟨capability, c.form, []⟩ := by
  cases k with
  | single => rfl
  | dual => rfl
  | nested => exact absurd rfl hk

/-- A nested candidate has two residuals, and the first is part of its head. -/
theorem Catalog.head_nested {s : Store} {x : TypeId} {c : Candidate}
    (hc : c ∈ Catalog.nested.candidates s x) (capability : Capability) :
    ∃ a b, c.residuals = [a, b] ∧ Catalog.nested.head capability c = ⟨capability, c.form, [a]⟩ := by
  obtain ⟨hp, h⟩ := (mem_candidates_iff ..).mp hc
  obtain ⟨a, b, hab⟩ := List.length_eq_two.mp (length_residuals hp h)
  exact ⟨a, b, hab, by rw [head, hab, List.take_one, List.head?_cons, Option.toList_some]⟩

theorem Request.head_of_candidate {s : Store} {r : Request} {c : Candidate}
    (hc : c ∈ r.candidates s) :
    (r.catalog ≠ .nested → r.head c = ⟨r.capability, c.form, []⟩) ∧
      (r.catalog = .nested →
        ∃ a b, c.residuals = [a, b] ∧ r.head c = ⟨r.capability, c.form, [a]⟩) := by
  obtain ⟨k, capability, x⟩ := r
  refine ⟨fun hk => Catalog.head_of_ne_nested hk capability c, ?_⟩
  rintro rfl
  exact Catalog.head_nested hc capability

theorem Request.getLast?_patterns {s : Store} {r : Request} (h : r.catalog = .single) :
    ((r.candidates s).map (·.pattern)).getLast? = some .constant := by
  rw [candidates, h, List.getLast?_map, Catalog.getLast?_candidates_single, Option.map_some]

/-- The patterns of the candidates are those of the catalog that fit the type, in its order. -/
theorem Request.map_pattern_candidates (s : Store) (r : Request) :
    (r.candidates s).map (·.pattern) =
      r.catalog.patterns.filter fun p => (p.candidate? s r.applied).isSome := by
  rw [candidates, Catalog.candidates, List.map_filterMap, ← List.filterMap_eq_filter]
  apply List.filterMap_congr
  intro p _
  cases hp : p.candidate? s r.applied with
  | none => simp [Option.guard, hp]
  | some c => simp [Option.guard, hp, Pattern.pattern_of_candidate? hp]

/-- A search asks for the heads of what the patterns of the catalog make of the type: of all that
fit, in the order of the catalog, each once, up to the first answer. It gives the candidate with the
answer. Without an answer it fails with the patterns of all candidates. A resolution does the same,
and so do both without the record of the questions. -/
theorem search_first_match (s : Store) (lookup : Lookup σ ι) (r : Request)
    (t : Session (σ × List (InstanceHead × Option ι))) :
    ∃ cs, cs = r.catalog.patterns.filterMap (·.candidate? s r.applied) ∧
      (cs.map (·.pattern) =
        r.catalog.patterns.filter fun p => (p.candidate? s r.applied).isSome) ∧
      (∀ c ∈ cs, c.pattern ∈ r.catalog.patterns ∧
        c.pattern.candidate? s r.applied = some c ∧
        (r.catalog ≠ .nested → r.head c = ⟨r.capability, c.form, []⟩) ∧
        (r.catalog = .nested →
          ∃ a b, c.residuals = [a, b] ∧ r.head c = ⟨r.capability, c.form, [a]⟩)) ∧
      (r.catalog = .single → (cs.map (·.pattern)).getLast? = some .constant) ∧
      ((∃ before c after value t', cs = before ++ c :: after ∧
          search s lookup.recorded r t =
            .ok ⟨c.pattern, value, ⟨r.applied, c.form, c.residuals⟩⟩ t' ∧
          resolve s lookup.recorded r t =
            .ok ⟨c.pattern, r.capability, value, ⟨r.applied, c.form, c.residuals⟩⟩ t' ∧
          search s lookup r t.unrecorded =
            .ok ⟨c.pattern, value, ⟨r.applied, c.form, c.residuals⟩⟩ t'.unrecorded ∧
          t'.memory.2 =
            t.memory.2 ++ before.map (fun b => (r.head b, none)) ++ [(r.head c, some value)]) ∨
        ∃ e t', e = ⟨.noViableDecomposition r.capability r.applied (cs.map (·.pattern)),
            [r.catalog.crumb]⟩ ∧
          search s lookup.recorded r t = .error e t' ∧
          resolve s lookup.recorded r t = .error e t' ∧
          search s lookup r t.unrecorded = .error e t'.unrecorded ∧
          t'.memory.2 = t.memory.2 ++ cs.map fun b => (r.head b, none)) := by
  refine
    ⟨r.candidates s, rfl, Request.map_pattern_candidates s r, ?_, Request.getLast?_patterns, ?_⟩
  · intro c hc
    obtain ⟨hp, h⟩ := (Catalog.mem_candidates_iff ..).mp hc
    exact ⟨hp, h, Request.head_of_candidate hc⟩
  have hsurvey := survey_recorded lookup r (r.candidates s) t.memory.1 t.memory.2
  cases hhit : (survey lookup r (r.candidates s) t.memory.1).hit with
  | none =>
    right
    have hsearch := search_of_miss ((congrArg Survey.hit hsurvey).trans hhit)
    have hresolve := resolve_eq s lookup.recorded r t
    have hplain : search s lookup r t.unrecorded = _ := search_of_miss hhit
    have hall := Survey.missed_of_hit_none lookup r _ _ hhit
    rw [hsurvey] at hsearch
    rw [hsearch] at hresolve
    refine ⟨_, _, rfl, hsearch, hresolve, hplain, ?_⟩
    simp only [Session.after, Survey.questions, hhit, hall, List.append_nil]
  | some found =>
    left
    obtain ⟨c, value⟩ := found
    have hsearch := search_of_hit ((congrArg Survey.hit hsurvey).trans hhit)
    have hresolve := resolve_eq s lookup.recorded r t
    have hplain : search s lookup r t.unrecorded = _ := search_of_hit hhit
    obtain ⟨after, hsplit⟩ := Survey.split_of_hit lookup r _ _ c value hhit
    rw [hsurvey] at hsearch
    rw [hsearch] at hresolve
    refine ⟨_, c, after, value, _, hsplit, hsearch, hresolve, hplain, ?_⟩
    simp only [Session.after, Survey.questions, hhit, List.append_assoc]

/-- `Functor` at `\a -> Pair Int a`. -/
def InstanceHead.pairSecond : InstanceHead :=
  ⟨⟨"Functor"⟩, ⟨1, .application (.fixed ⟨3⟩) (.hole 0)⟩, []⟩

/-- `Functor` at `\a -> Pair a String`. -/
def InstanceHead.pairFirst : InstanceHead :=
  ⟨⟨"Functor"⟩, ⟨1, .application (.application (.fixed ⟨2⟩) (.hole 0)) (.fixed ⟨1⟩)⟩, []⟩

/-- The only functor is at `\a -> Pair Int a`. So for `Pair Int String` the form
`\a -> Pair a String` is asked for in vain, `\a -> Pair Int a` is found, and `\a -> Pair Int String`
is not asked for. -/
theorem functor_of_pair_int_string :
    ∃ t' : Session (Unit × List (InstanceHead × Option String)),
      search Store.pairs (Environment.empty.register .pairSecond "second").lookup.recorded
          ⟨.single, ⟨"Functor"⟩, ⟨4⟩⟩ ⟨((), []), none, []⟩ =
        .ok ⟨.binarySecond, "second", ⟨⟨4⟩, InstanceHead.pairSecond.form, [⟨1⟩]⟩⟩ t' ∧
      t'.memory.2 = [(.pairFirst, none), (.pairSecond, some "second")] := by
  let lookup : Lookup Unit String := (Environment.empty.register .pairSecond "second").lookup
  let r : Request := ⟨.single, ⟨"Functor"⟩, ⟨4⟩⟩
  have hcandidates : r.catalog.patterns.filterMap (·.candidate? Store.pairs r.applied) =
      [⟨.binaryFirst, InstanceHead.pairFirst.form, [⟨0⟩]⟩,
        ⟨.binarySecond, InstanceHead.pairSecond.form, [⟨1⟩]⟩,
        ⟨.constant, .constant ⟨4⟩, [⟨4⟩]⟩] := by decide +kernel
  have hfound : Resolving.outcome (search Store.pairs lookup.recorded r ⟨((), []), none, []⟩) =
      .ok ⟨.binarySecond, "second", ⟨⟨4⟩, InstanceHead.pairSecond.form, [⟨1⟩]⟩⟩ := by
    decide +kernel
  obtain ⟨cs, rfl, _, _, _, ⟨before, c, after, value, t', hsplit, hsearch, _, _, hasked⟩ |
    ⟨e, t', _, hsearch, _⟩⟩ := search_first_match Store.pairs lookup r ⟨((), []), none, []⟩
  · rw [hsearch] at hfound
    obtain ⟨hpattern, rfl, hequality⟩ := Found.mk.inj (Except.ok.inj hfound)
    refine ⟨t', by rw [hsearch, hpattern, hequality], ?_⟩
    rw [hcandidates] at hsplit
    -- the candidate found is the second of three, so the first one was asked for in vain
    rcases before with _ | ⟨b, _ | ⟨b', before⟩⟩
    case nil =>
      obtain ⟨rfl, _⟩ := List.cons.inj hsplit
      contradiction
    case cons.nil =>
      obtain ⟨rfl, hrest⟩ := List.cons.inj hsplit
      obtain ⟨rfl, _⟩ := List.cons.inj hrest
      exact hasked
    case cons.cons =>
      have hc : c ∈ before ++ c :: after := by simp
      simp only [List.cons_append, List.cons.injEq] at hsplit
      rw [← hsplit.2.2] at hc
      obtain rfl := List.mem_singleton.mp hc
      contradiction
  · rw [hsearch] at hfound
    contradiction

end FormRecovery
