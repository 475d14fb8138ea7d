import FormRecovery.Proofs.Certification
import FormRecovery.Proofs.Reachability

/-!
In an environment a search takes the first candidate that has an instance. So an instance for a form
serves exactly the types that the form gives at proper residuals: the patterns that come first may
match such a type too, but they propose other forms and so other heads.
-/
namespace FormRecovery

variable {σ ι : Type} {s : Store}

/-- The environment with a single instance. -/
def Environment.only (head : InstanceHead) (value : ι) : Environment ι := empty.register head value

theorem Environment.get?_only (head other : InstanceHead) (value : ι) :
    (only head value).get? other = if head = other then some value else none :=
  get?_register empty head other value

/-- The form of the candidate gives the type at stored proper residuals. For a nested form the first
one has to be that of the candidate. -/
structure Candidate.Gives (s : Store) (k : Catalog) (c : Candidate) (others : List TypeId)
    (y : TypeId) : Prop where
  proper : ∀ r ∈ others, r ∈ s ∧ s.kind r = .proper
  reconstructs : c.form.reconstructs s others y = true
  first : k = .nested → others.head? = c.residuals.head?

theorem Catalog.head_eq_iff (capability : Capability) (a b : Candidate) (k : Catalog) :
    k.head capability a = k.head capability b ↔
      a.form = b.form ∧ (k = .nested → a.residuals.head? = b.residuals.head?) := by
  cases k with
  | single => simp [Catalog.head]
  | dual => simp [Catalog.head]
  | nested =>
    have htake :
        a.residuals.take 1 = b.residuals.take 1 ↔ a.residuals.head? = b.residuals.head? := by
      cases a.residuals <;> cases b.residuals <;> simp
    simp [Catalog.head, htake]

namespace Environment

/-- The first of the candidates that has an instance. -/
def firstOf? (env : Environment ι) (r : Request) (cs : List Candidate) : Option (Candidate × ι) :=
  cs.findSome? fun c => (env.get? (r.head c)).map (c, ·)

variable {env : Environment ι} {r : Request} {c : Candidate} {cs : List Candidate}

theorem firstOf?_cons_of_some {value : ι} (h : env.get? (r.head c) = some value) :
    env.firstOf? r (c :: cs) = some (c, value) := by
  simp [firstOf?, h]

theorem firstOf?_cons_of_none (h : env.get? (r.head c) = none) :
    env.firstOf? r (c :: cs) = env.firstOf? r cs := by
  simp [firstOf?, h]

theorem firstOf?_eq_none_iff : env.firstOf? r cs = none ↔ ∀ c ∈ cs, env.get? (r.head c) = none := by
  simp [firstOf?]

theorem mem_of_firstOf? {value : ι} (h : env.firstOf? r cs = some (c, value)) :
    c ∈ cs ∧ env.get? (r.head c) = some value := by
  obtain ⟨b, hb, hfound⟩ := List.exists_of_findSome?_eq_some h
  obtain ⟨value', hvalue, heq⟩ := Option.map_eq_some_iff.mp hfound
  obtain ⟨rfl, rfl⟩ := Prod.mk.inj heq
  exact ⟨hb, hvalue⟩

/-- Asking an environment in turn hits the first candidate with an instance. -/
theorem hit_survey (env : Environment ι) (r : Request) (cs : List Candidate) (m : σ) :
    (survey env.lookup r cs m).hit = env.firstOf? r cs := by
  induction cs generalizing m with
  | nil => rfl
  | cons c rest ih =>
    cases hget : env.get? (r.head c) with
    | some value =>
      have hanswer : (env.lookup (r.head c)).run m = (some value, m) := congrArg (·, m) hget
      rw [firstOf?_cons_of_some hget, survey, hanswer]
    | none =>
      have hanswer : (env.lookup (r.head c)).run m = (none, m) := congrArg (·, m) hget
      rw [firstOf?_cons_of_none hget, survey, hanswer]
      exact ih m

end Environment

section

variable {env : Environment ι} {r : Request}

/-- A resolution in an environment gives the first candidate with an instance. -/
theorem resolve_of_first {c : Candidate} {value : ι}
    (h : env.firstOf? r (r.candidates s) = some (c, value)) (t : Session σ) :
    ∃ u, resolve s env.lookup r t =
      .ok ⟨c.pattern, r.capability, value, ⟨r.applied, c.form, c.residuals⟩⟩ u := by
  have hhit := (env.hit_survey r (r.candidates s) t.memory).trans h
  rw [resolve_eq, search_of_hit hhit]
  exact ⟨_, rfl⟩

/-- Without one it fails with the patterns of all candidates. -/
theorem resolve_of_no_first (h : env.firstOf? r (r.candidates s) = none) (t : Session σ) :
    ∃ u, resolve s env.lookup r t = .error ⟨.noViableDecomposition r.capability r.applied
      ((r.candidates s).map (·.pattern)), [r.catalog.crumb]⟩ u := by
  have hhit := (env.hit_survey r (r.candidates s) t.memory).trans h
  rw [resolve_eq, search_of_miss hhit]
  exact ⟨_, rfl⟩

theorem first_of_resolve {resolution : Resolution ι} {t u : Session σ}
    (h : resolve s env.lookup r t = .ok resolution u) :
    ∃ c, env.firstOf? r (r.candidates s) = some (c, resolution.value) ∧
      resolution =
        ⟨c.pattern, r.capability, resolution.value, ⟨r.applied, c.form, c.residuals⟩⟩ := by
  cases hfirst : env.firstOf? r (r.candidates s) with
  | none =>
    obtain ⟨u', hfails⟩ := resolve_of_no_first hfirst t
    rw [hfails] at h
    contradiction
  | some first =>
    obtain ⟨c, value⟩ := first
    obtain ⟨u', hfound⟩ := resolve_of_first hfirst t
    rw [hfound] at h
    obtain ⟨rfl, _⟩ := EStateM.Result.ok.inj h
    exact ⟨c, rfl, rfl⟩

theorem no_first_of_resolve {e : ResolveError} {t u : Session σ}
    (h : resolve s env.lookup r t = .error e u) :
    env.firstOf? r (r.candidates s) = none ∧
      e = ⟨.noViableDecomposition r.capability r.applied ((r.candidates s).map (·.pattern)),
        [r.catalog.crumb]⟩ := by
  cases hfirst : env.firstOf? r (r.candidates s) with
  | none => exact ⟨rfl, error_of_search (error_of_resolve h)⟩
  | some first =>
    obtain ⟨u', hfound⟩ := resolve_of_first hfirst t
    rw [hfound] at h
    contradiction

/-- What a resolution finds in an environment is a candidate with an instance. -/
theorem candidate_of_resolve {resolution : Resolution ι} {t u : Session σ}
    (h : resolve s env.lookup r t = .ok resolution u) :
    ∃ c ∈ r.candidates s, env.get? (r.head c) = some resolution.value ∧
      resolution =
        ⟨c.pattern, r.capability, resolution.value, ⟨r.applied, c.form, c.residuals⟩⟩ := by
  obtain ⟨c, hfirst, hresolution⟩ := first_of_resolve h
  obtain ⟨hc, hvalue⟩ := Environment.mem_of_firstOf? hfirst
  exact ⟨c, hc, hvalue, hresolution⟩

/-- A resolution finds something in an environment with an instance for a candidate. -/
theorem exists_resolve {c : Candidate} (hc : c ∈ r.candidates s) {value : ι}
    (h : env.get? (r.head c) = some value) (t : Session σ) :
    ∃ resolution u, resolve s env.lookup r t = .ok resolution u := by
  cases hfirst : env.firstOf? r (r.candidates s) with
  | none =>
    rw [Environment.firstOf?_eq_none_iff.mp hfirst c hc] at h
    contradiction
  | some first =>
    obtain ⟨b, value'⟩ := first
    obtain ⟨u, hfound⟩ := resolve_of_first hfirst t
    exact ⟨_, u, hfound⟩

end

section

variable {k : Catalog} {p : Pattern} {x y : TypeId} {b c : Candidate} {others : List TypeId}

/-- A pattern proposes for a type what its form gives it at. -/
theorem Candidate.Gives.candidate? (hs : s.WellFormed) (hne : p ≠ .constant)
    (h : p.candidate? s x = some c) (hy : c.Gives s k others y) :
    p.candidate? s y = some ⟨p, c.form, others⟩ :=
  Pattern.candidate?_of_reconstructs hs hne h (fun r hr => (hy.proper r hr).2) hy.reconstructs

/-- Whatever is looked up under the head of a candidate comes from the same pattern. -/
theorem gives_of_head (hs : s.WellFormed) (hp : p ∈ k.patterns) (hne : p ≠ .constant)
    (h : p.candidate? s x = some c) (hb : b ∈ k.candidates s y) {capability : Capability}
    (hhead : k.head capability b = k.head capability c) :
    b.pattern = p ∧ b.form = c.form ∧ c.Gives s k b.residuals y := by
  obtain ⟨hf, hfirst⟩ := (Catalog.head_eq_iff ..).mp hhead
  obtain ⟨hq, hb⟩ := (Catalog.mem_candidates_iff ..).mp hb
  have hqc : b.pattern ≠ .constant := by
    intro hqc
    exact hne ((Catalog.width_eq_zero_iff h).mp (hf ▸ (Catalog.width_eq_zero_iff hb).mpr hqc))
  have hmem := Pattern.residuals_mem hs hqc hb
  have hproper := Pattern.residuals_proper hqc hb
  have hgives : c.Gives s k b.residuals y :=
    ⟨fun r hr => ⟨hmem r hr, hproper r hr⟩, hf ▸ Pattern.reconstructs_of_candidate? hb, hfirst⟩
  exact ⟨Catalog.pattern_eq_of_form hq hp hb (hgives.candidate? hs hne h) hf, hf, hgives⟩

/-- A resolution with just the instance of a candidate finds its form again. -/
theorem gives_of_resolve (hs : s.WellFormed) (hp : p ∈ k.patterns) (hne : p ≠ .constant)
    (h : p.candidate? s x = some c) {capability : Capability} {value : ι} {t t' : Session σ}
    {resolution : Resolution ι}
    (hr : resolve s (Environment.only (k.head capability c) value).lookup ⟨k, capability, y⟩ t =
      .ok resolution t') :
    ∃ others, c.Gives s k others y ∧ resolution = ⟨p, capability, value, ⟨y, c.form, others⟩⟩ := by
  obtain ⟨b, hb, hvalue, hresolution⟩ := candidate_of_resolve hr
  rw [Environment.get?_only, Option.ite_none_right_eq_some] at hvalue
  obtain ⟨hpattern, hform, hgives⟩ := gives_of_head hs hp hne h hb hvalue.1.symm
  refine ⟨b.residuals, hgives, ?_⟩
  rw [hresolution, hpattern, hform, Option.some.inj hvalue.2]

end

/-- With just the instance of a candidate, a type resolves if the form of the candidate gives it,
and then to this form. -/
theorem instance_serves_form (hs : s.Reachable) {k : Catalog} {p : Pattern} (hp : p ∈ k.patterns)
    (hne : p ≠ .constant) {x : TypeId} {c : Candidate} (h : p.candidate? s x = some c)
    (capability : Capability) (value : ι) (y : TypeId) (t : Session σ) :
    ((∃ resolution t', resolve s (Environment.only (k.head capability c) value).lookup
        ⟨k, capability, y⟩ t = .ok resolution t') ↔ ∃ others, c.Gives s k others y) ∧
    ∀ others, c.Gives s k others y →
      ∃ t', resolve s (Environment.only (k.head capability c) value).lookup ⟨k, capability, y⟩ t =
        .ok ⟨p, capability, value, ⟨y, c.form, others⟩⟩ t' := by
  have hall : ∀ others, c.Gives s k others y →
      ∃ t', resolve s (Environment.only (k.head capability c) value).lookup ⟨k, capability, y⟩ t =
        .ok ⟨p, capability, value, ⟨y, c.form, others⟩⟩ t' := by
    intro others hy
    have hcandidate := hy.candidate? hs.wellFormed hne h
    have hmem : ⟨p, c.form, others⟩ ∈ k.candidates s y :=
      (Catalog.mem_candidates_iff ..).mpr ⟨hp, hcandidate⟩
    have hhead : k.head capability c = k.head capability ⟨p, c.form, others⟩ :=
      (Catalog.head_eq_iff ..).mpr ⟨rfl, fun hk => (hy.first hk).symm⟩
    have hget : (Environment.only (k.head capability c) value).get?
        (k.head capability ⟨p, c.form, others⟩) = some value := by
      rw [Environment.get?_only, if_pos hhead]
    obtain ⟨resolution, t', hr⟩ := exists_resolve (r := ⟨k, capability, y⟩) hmem hget t
    obtain ⟨residuals, hgives, rfl⟩ := gives_of_resolve hs.wellFormed hp hne h hr
    -- a pattern proposes one list of residuals for a type
    have hsame := (hgives.candidate? hs.wellFormed hne h).symm.trans hcandidate
    obtain rfl : residuals = others := by simpa using hsame
    exact ⟨t', hr⟩
  refine ⟨⟨?_, ?_⟩, hall⟩
  · rintro ⟨resolution, t', hr⟩
    obtain ⟨others, hgives, _⟩ := gives_of_resolve hs.wellFormed hp hne h hr
    exact ⟨others, hgives⟩
  · rintro ⟨others, hy⟩
    obtain ⟨t', hr⟩ := hall others hy
    exact ⟨_, t', hr⟩

/-- The instance found through `Pair Int String` serves `Pair Int Int`, although another pattern
that comes first matches that type too. -/
theorem instance_serves_pair_int_int :
    (Pattern.binaryFirst.candidate? Store.pairs ⟨5⟩).isSome = true ∧
    ∃ t', resolve Store.pairs (Environment.only (Catalog.single.head ⟨"Functor"⟩
        ⟨.binarySecond, ⟨1, .application (.fixed ⟨3⟩) (.hole 0)⟩, [⟨1⟩]⟩) "map").lookup
        ⟨.single, ⟨"Functor"⟩, ⟨5⟩⟩ ⟨(), none, []⟩ =
      .ok ⟨.binarySecond, ⟨"Functor"⟩, "map",
        ⟨⟨5⟩, ⟨1, .application (.fixed ⟨3⟩) (.hole 0)⟩, [⟨0⟩]⟩⟩ t' := by
  have hcandidate : Pattern.binarySecond.candidate? Store.pairs ⟨4⟩ =
      some ⟨.binarySecond, ⟨1, .application (.fixed ⟨3⟩) (.hole 0)⟩, [⟨1⟩]⟩ := by decide +kernel
  have hserves := instance_serves_form (k := .single) Store.reachable_pairs (by decide) (by decide)
    hcandidate ⟨"Functor"⟩ "map" ⟨5⟩ ⟨(), none, []⟩
  exact ⟨by decide +kernel, hserves.2 [⟨0⟩] ⟨by decide +kernel, by decide +kernel, by decide⟩⟩

end FormRecovery
