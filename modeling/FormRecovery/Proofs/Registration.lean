import FormRecovery.Proofs.Serving

/-!
What one more instance changes. Registration gives an instance to one head only, which at most one
candidate of a type has. So whoever resolved before resolves still, to the same result or to the new
instance at a candidate that comes no later.
-/
namespace FormRecovery

variable {σ ι : Type}

/-- After a registration the first candidate with an instance is what it was, or it is one with the
registered head, and no candidate before it had an instance. -/
theorem Environment.firstOf?_register (env : Environment ι) (head : InstanceHead) (value : ι)
    (r : Request) (cs : List Candidate) :
    (env.register head value).firstOf? r cs = env.firstOf? r cs ∨
      ∃ before c after, cs = before ++ c :: after ∧ r.head c = head ∧
        (env.register head value).firstOf? r cs = some (c, value) ∧
        ∀ b ∈ before, env.get? (r.head b) = none := by
  induction cs with
  | nil => exact .inl rfl
  | cons c rest ih =>
    have hregistered := env.get?_register head (r.head c) value
    by_cases hc : head = r.head c
    · rw [if_pos hc] at hregistered
      exact .inr ⟨[], c, rest, rfl, hc.symm, firstOf?_cons_of_some hregistered, by simp⟩
    rw [if_neg hc] at hregistered
    cases hget : env.get? (r.head c) with
    | some value' =>
      left
      rw [firstOf?_cons_of_some hget, firstOf?_cons_of_some (hregistered.trans hget)]
    | none =>
      rw [firstOf?_cons_of_none hget, firstOf?_cons_of_none (hregistered.trans hget)]
      rcases ih with hsame | ⟨before, b, after, rfl, hhead, hfirst, hmissed⟩
      · exact .inl hsame
      · exact .inr ⟨c :: before, b, after, rfl, hhead, hfirst,
          List.forall_mem_cons.mpr ⟨hget, hmissed⟩⟩

namespace Catalog

/-- The pattern `p` is tried before the pattern `q`. -/
def Precedes (k : Catalog) (p q : Pattern) : Prop := [p, q].Sublist k.patterns

variable {s : Store} {x : TypeId} {k : Catalog} {a b : Candidate}

theorem sublist_patterns (s : Store) (x : TypeId) (k : Catalog) :
    ((k.candidates s x).map (·.pattern)).Sublist k.patterns := by
  rw [candidates]
  induction k.patterns with
  | nil => exact .slnil
  | cons p ps ih =>
    cases hp : p.candidate? s x with
    | none =>
      rw [List.filterMap_cons_none hp]
      exact ih.cons p
    | some c =>
      rw [List.filterMap_cons_some hp, List.map_cons, Pattern.pattern_of_candidate? hp]
      exact ih.cons_cons p

/-- A candidate that is listed earlier comes from a pattern that is tried earlier. -/
theorem precedes_of_candidates {before after : List Candidate}
    (hsplit : k.candidates s x = before ++ a :: after) (hb : b ∈ after) :
    k.Precedes a.pattern b.pattern := by
  have hpair : [a, b].Sublist (k.candidates s x) := by
    rw [hsplit]
    exact ((List.singleton_sublist.mpr hb).cons_cons a).trans (List.sublist_append_right _ _)
  exact (hpair.map (·.pattern)).trans (k.sublist_patterns s x)

/-- Two candidates of a type have different forms. -/
theorem eq_of_form_eq (ha : a ∈ k.candidates s x) (hb : b ∈ k.candidates s x)
    (h : a.form = b.form) : a = b := by
  obtain ⟨hp, hac⟩ := (mem_candidates_iff ..).mp ha
  obtain ⟨hq, hbc⟩ := (mem_candidates_iff ..).mp hb
  rw [pattern_eq_of_form hp hq hac hbc h, hbc] at hac
  exact (Option.some.inj hac).symm

/-- So they have different heads. -/
theorem eq_of_head_eq (ha : a ∈ k.candidates s x) (hb : b ∈ k.candidates s x)
    {capability : Capability} (h : k.head capability a = k.head capability b) : a = b :=
  eq_of_form_eq ha hb ((head_eq_iff ..).mp h).1

end Catalog

/-- A candidate that alone has an instance is what is found, wherever it is listed. -/
theorem resolve_of_only {s : Store} {r : Request} {c : Candidate} (hc : c ∈ r.candidates s)
    (value : ι) (t : Session σ) :
    ∃ u, resolve s (Environment.only (r.head c) value).lookup r t =
      .ok ⟨c.pattern, r.capability, value, ⟨r.applied, c.form, c.residuals⟩⟩ u := by
  have hget : (Environment.only (r.head c) value).get? (r.head c) = some value := by
    rw [Environment.get?_only, if_pos rfl]
  obtain ⟨resolution, u, hr⟩ := exists_resolve hc hget t
  obtain ⟨b, hb, hvalue, hresult⟩ := candidate_of_resolve hr
  -- what was found has the one head with an instance, and no other candidate has this head
  rw [Environment.get?_only, Option.ite_none_right_eq_some] at hvalue
  obtain rfl := Catalog.eq_of_head_eq hc hb hvalue.1
  rw [← Option.some.inj hvalue.2] at hresult
  exact ⟨u, hresult ▸ hr⟩

/-- One more instance. What resolved before gives the same result, or the new instance at a
candidate with its head, from the same pattern or from one that is tried before. What failed before
fails with the same error, unless an attempted candidate has the head: then it gives just this
candidate. -/
theorem registration_improves (s : Store) (env : Environment ι) (head : InstanceHead) (value : ι)
    (r : Request) (t t' : Session σ) :
    (∀ resolution u, resolve s env.lookup r t = .ok resolution u →
      ∃ u', resolve s (env.register head value).lookup r t' = .ok resolution u' ∨
        ∃ c ∈ r.candidates s, r.head c = head ∧
          (c.pattern = resolution.pattern ∨ r.catalog.Precedes c.pattern resolution.pattern) ∧
          resolve s (env.register head value).lookup r t' =
            .ok ⟨c.pattern, r.capability, value, ⟨r.applied, c.form, c.residuals⟩⟩ u') ∧
    ∀ e u, resolve s env.lookup r t = .error e u →
      e = ⟨.noViableDecomposition r.capability r.applied ((r.candidates s).map (·.pattern)),
        [r.catalog.crumb]⟩ ∧
      ((∀ c ∈ r.candidates s, r.head c ≠ head) →
        ∃ u', resolve s (env.register head value).lookup r t' = .error e u') ∧
      ∀ c ∈ r.candidates s, r.head c = head →
        ∃ u', resolve s (env.register head value).lookup r t' =
          .ok ⟨c.pattern, r.capability, value, ⟨r.applied, c.form, c.residuals⟩⟩ u' := by
  have hregister := env.firstOf?_register head value r (r.candidates s)
  constructor
  · intro resolution u h
    obtain ⟨c, hfirst, hresolution⟩ := first_of_resolve h
    rcases hregister with hsame | ⟨before, b, after, hsplit, hhead, hfirst', hmissed⟩
    · obtain ⟨u', hu⟩ := resolve_of_first (hsame.trans hfirst) t'
      rw [← hresolution] at hu
      exact ⟨u', .inl hu⟩
    · obtain ⟨u', hu⟩ := resolve_of_first hfirst' t'
      have hb : b ∈ r.candidates s := by simp [hsplit]
      have hpattern : resolution.pattern = c.pattern := congrArg Resolution.pattern hresolution
      -- the candidate found before has an instance, so it is not among those that had none
      obtain ⟨hc, hvalue⟩ := Environment.mem_of_firstOf? hfirst
      rw [hsplit] at hc
      refine ⟨u', .inr ⟨b, hb, hhead, ?_, hu⟩⟩
      rw [hpattern]
      rcases List.mem_append.mp hc with hc | hc
      · rw [hmissed c hc] at hvalue
        contradiction
      · rcases List.mem_cons.mp hc with rfl | hc
        · exact .inl rfl
        · exact .inr (Catalog.precedes_of_candidates hsplit hc)
  · intro e u h
    obtain ⟨hnone, he⟩ := no_first_of_resolve h
    refine ⟨he, ?_, ?_⟩
    · intro hother
      rcases hregister with hsame | ⟨before, b, after, hsplit, hhead, _, _⟩
      · obtain ⟨u', hu⟩ := resolve_of_no_first (hsame.trans hnone) t'
        exact ⟨u', he ▸ hu⟩
      · exact absurd hhead (hother b (by simp [hsplit]))
    · intro c hc hhead
      have hget : (env.register head value).get? (r.head c) = some value := by
        rw [env.get?_register, if_pos hhead.symm]
      rcases hregister with hsame | ⟨before, b, after, hsplit, hhead', hfirst', _⟩
      · have hmissed := Environment.firstOf?_eq_none_iff.mp (hsame.trans hnone) c hc
        rw [hmissed] at hget
        contradiction
      · have hb : b ∈ r.candidates s := by simp [hsplit]
        obtain rfl := Catalog.eq_of_head_eq hb hc (hhead'.trans hhead.symm)
        exact resolve_of_first hfirst' t'

/-- Without an instance `Pair Int String` fails for `Functor`. One for `\a -> Pair Int a` makes it
resolve to that form, and it resolves still when one for `\a -> Pair a String` is added. -/
theorem registration_for_pair :
    (∃ e u, resolve Store.pairs (Environment.empty : Environment String).lookup
      ⟨.single, ⟨"Functor"⟩, ⟨4⟩⟩ ⟨(), none, []⟩ = .error e u) ∧
    (∃ u, resolve Store.pairs (Environment.empty.register .pairSecond "second").lookup
        ⟨.single, ⟨"Functor"⟩, ⟨4⟩⟩ ⟨(), none, []⟩ =
      .ok ⟨.binarySecond, ⟨"Functor"⟩, "second", ⟨⟨4⟩, InstanceHead.pairSecond.form, [⟨1⟩]⟩⟩ u) ∧
    ∃ resolution u, resolve Store.pairs
        ((Environment.empty.register .pairSecond "second").register .pairFirst "first").lookup
        ⟨.single, ⟨"Functor"⟩, ⟨4⟩⟩ ⟨(), none, []⟩ = .ok resolution u := by
  let r : Request := ⟨.single, ⟨"Functor"⟩, ⟨4⟩⟩
  let t : Session Unit := ⟨(), none, []⟩
  have hempty :
      (Environment.empty : Environment String).firstOf? r (r.candidates Store.pairs) = none :=
    Environment.firstOf?_eq_none_iff.mpr fun _ _ => rfl
  have hmem : ⟨.binarySecond, InstanceHead.pairSecond.form, [⟨1⟩]⟩ ∈ r.candidates Store.pairs := by
    decide +kernel
  obtain ⟨u, hfails⟩ := resolve_of_no_first hempty t
  obtain ⟨_, _, hsecond⟩ :=
    (registration_improves Store.pairs Environment.empty .pairSecond "second" r t t).2 _ u hfails
  obtain ⟨u', hresolves⟩ := hsecond _ hmem rfl
  obtain ⟨u'', hsame | ⟨c, _, _, _, hfirst⟩⟩ := (registration_improves Store.pairs
    (Environment.empty.register .pairSecond "second") .pairFirst "first" r t t).1 _ u' hresolves
  · exact ⟨⟨_, u, hfails⟩, ⟨u', hresolves⟩, _, u'', hsame⟩
  · exact ⟨⟨_, u, hfails⟩, ⟨u', hresolves⟩, _, u'', hfirst⟩

end FormRecovery
