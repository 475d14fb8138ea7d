import FormRecovery.Proofs.CanonicalKeys
import FormRecovery.Proofs.FirstMatch

/-!
Whatever matches certifies. To match a stored type only stored types are looked up. A form that was
matched gives the type back from as many residuals as it has holes, so a search never finds an
instance for a form that it cannot certify, and what it finds has the number of residuals that its
catalog promises.
-/
namespace FormRecovery

/-- Everything looked up is in the store. -/
def Reading.Within {α : Type} (s : Store) (x : Reading α) : Prop := ∀ id ∈ x.ids, id ∈ s

namespace Reading.Within

variable {s : Store} {α β : Type}

theorem pure (a : α) : Within s (Pure.pure a) := List.forall_mem_nil _

theorem bind {x : Reading α} {f : α → Reading β} (hx : x.Within s) (hf : (f x.value).Within s) :
    (x >>= f).Within s := List.forall_mem_append.mpr ⟨hx, hf⟩

theorem allM {f : α → Reading Bool} {xs : List α} (h : ∀ a ∈ xs, (f a).Within s) :
    (xs.allM f).Within s := by
  induction xs with
  | nil => exact pure true
  | cons a xs ih =>
    rw [List.forall_mem_cons] at h
    refine bind h.1 ?_
    cases (f a).value with
    | true => exact ih h.2
    | false => exact pure false

end Reading.Within

theorem Store.readKind_within {s : Store} {id : TypeId} (h : id ∈ s) : (s.readKind id).Within s :=
  List.forall_mem_singleton.mpr h

theorem Requirement.check_within {s : Store} (hs : s.WellFormed) {x : TypeId} (hx : x ∈ s)
    (requirement : Requirement) : (requirement.check s x).Within s := by
  cases requirement with
  | proper => exact .bind (s.readKind_within hx) (.pure _)
  | constructor => exact .bind (s.readKind_within hx) (.pure _)
  | partialBinary =>
    refine .bind (List.forall_mem_singleton.mpr hx) ?_
    cases hsplit : (s.readSplit x).value with
    | none => exact .pure false
    | some sides =>
      have hsides := hs.split_mem hsplit
      refine .bind (s.readKind_within hsides.1) ?_
      split
      · exact .bind (s.readKind_within hsides.2) (.pure _)
      · exact .pure false

namespace Template

/-- `Template.reconstructs` with the types that it takes apart. -/
def check (s : Store) (residuals : List TypeId) : Template → TypeId → Reading Bool
  | fixed t, id => return t == id
  | hole h, id => return residuals[h]? == some id
  | application function argument, id => do
    match ← s.readSplit id with
    | some (f, x) =>
      if ← function.check s residuals f then argument.check s residuals x else return false
    | none => return false

theorem value_check (s : Store) (residuals : List TypeId) (u : Template) (x : TypeId) :
    (u.check s residuals x).value = u.reconstructs s residuals x := by
  induction u generalizing x with
  | fixed t => rfl
  | hole h => rfl
  | application f a ihf iha =>
    rw [check, Reading.value_bind, Store.readSplit, reconstructs]
    cases s.split? x with
    | none => rfl
    | some sides =>
      simp only [Reading.value_bind, ← ihf, ← iha]
      cases (f.check s residuals sides.1).value <;> rfl

theorem check_within {s : Store} (hs : s.WellFormed) (residuals : List TypeId) (u : Template)
    {x : TypeId} (hx : x ∈ s) : (u.check s residuals x).Within s := by
  induction u generalizing x with
  | fixed t => exact .pure _
  | hole h => exact .pure _
  | application f a ihf iha =>
    refine .bind (List.forall_mem_singleton.mpr hx) ?_
    cases hsplit : (s.readSplit x).value with
    | none => exact .pure false
    | some sides =>
      have hsides := hs.split_mem hsplit
      refine .bind (ihf hsides.1) ?_
      split
      · exact iha hsides.2
      · exact .pure false

end Template

namespace Pattern

variable {s : Store} {p : Pattern} {x : TypeId} {c : Candidate}

theorem check_within (hs : s.WellFormed) (hx : x ∈ s) (p : Pattern) :
    (p.check s (s.spine x)).Within s := by
  have happlied : (s.spine x).applied ∈ s := by rwa [Store.applied_spine]
  refine .bind (s.readKind_within happlied) ?_
  split
  case isTrue =>
    split
    case isTrue =>
      apply Reading.Within.allM
      intro q hq
      have hargument := (Store.spine_over hs hx).arguments_mem q.2 (List.of_mem_zip hq).2
      exact q.1.1.check_within hs hargument
    case isFalse => exact .pure false
  case isFalse => exact .pure false

theorem valid_of_candidate? (hs : s.WellFormed) (hx : x ∈ s) (h : p.candidate? s x = some c) :
    c.form.Valid s := by
  by_cases hp : p = constant
  · subst hp
    obtain rfl := Option.some.inj h
    exact Form.valid_constant hx
  · obtain ⟨_, _, ⟨d⟩⟩ := (candidate?_eq_some_iff hp s x c).mp h
    exact d.valid hs (Store.spine_over hs hx)

theorem residuals_mem_of_candidate? (hs : s.WellFormed) (hx : x ∈ s)
    (h : p.candidate? s x = some c) : ∀ r ∈ c.residuals, r ∈ s := by
  by_cases hp : p = constant
  · subst hp
    obtain rfl := Option.some.inj h
    exact List.forall_mem_singleton.mpr hx
  · exact residuals_mem hs hp h

end Pattern

theorem Decomposition.certify_eq {s : Store} {x : TypeId} {slots : List Slot} {form : Form}
    {residuals : List TypeId} (d : Decomposition s (s.spine x) slots form residuals) :
    Equality.certify s x form residuals = some ⟨x, form, residuals⟩ :=
  Equality.certify_eq_some_iff.mpr ⟨d.reconstructs, rfl⟩

theorem Form.length_of_reconstructs {s : Store} {f : Form} {residuals : List TypeId} {x : TypeId}
    (h : f.reconstructs s residuals x = true) : residuals.length = f.arity :=
  (reconstructs_iff.mp h).1

section

variable {σ ι : Type} {s : Store} {lookup : Lookup σ ι} {r : Request} {t t' : Session σ}

/-- A search fails in one way only. -/
theorem error_of_search {e : ResolveError} (h : search s lookup r t = .error e t') :
    e = ⟨.noViableDecomposition r.capability r.applied ((r.candidates s).map (·.pattern)),
      [r.catalog.crumb]⟩ := by
  cases hhit : (survey lookup r (r.candidates s) t.memory).hit with
  | none =>
    rw [search_of_miss hhit] at h
    exact (EStateM.Result.error.inj h).1.symm
  | some found =>
    rw [search_of_hit hhit] at h
    contradiction

/-- What a search finds is the candidate with an answer. -/
theorem hit_of_search {found : Found ι} (h : search s lookup r t = .ok found t') :
    ∃ c ∈ r.candidates s, (survey lookup r (r.candidates s) t.memory).hit = some (c, found.value) ∧
      found = ⟨c.pattern, found.value, ⟨r.applied, c.form, c.residuals⟩⟩ := by
  cases hhit : (survey lookup r (r.candidates s) t.memory).hit with
  | none =>
    rw [search_of_miss hhit] at h
    contradiction
  | some hit =>
    obtain ⟨c, value⟩ := hit
    obtain ⟨rest, hsplit⟩ := Survey.split_of_hit lookup r _ _ c value hhit
    rw [search_of_hit hhit] at h
    obtain ⟨rfl, _⟩ := EStateM.Result.ok.inj h
    exact ⟨c, hsplit ▸ List.mem_append_right _ List.mem_cons_self, rfl, rfl⟩

theorem length_residuals_of_search {found : Found ι} (h : search s lookup r t = .ok found t') :
    found.equality.residuals.length = r.catalog.holes := by
  obtain ⟨c, hc, _, hfound⟩ := hit_of_search h
  obtain ⟨hp, hcandidate⟩ := (Catalog.mem_candidates_iff ..).mp hc
  rw [hfound]
  exact Catalog.length_residuals hp hcandidate

theorem error_of_resolve {e : ResolveError} (h : resolve s lookup r t = .error e t') :
    search s lookup r t = .error e t' := by
  rw [resolve_eq] at h
  split at h
  · contradiction
  · next hs =>
    obtain ⟨rfl, rfl⟩ := EStateM.Result.error.inj h
    exact hs

theorem search_of_resolve {resolution : Resolution ι}
    (h : resolve s lookup r t = .ok resolution t') :
    search s lookup r t = .ok ⟨resolution.pattern, resolution.value, resolution.equality⟩ t' ∧
      resolution.capability = r.capability := by
  rw [resolve_eq] at h
  split at h
  · next found t'' hs =>
    obtain ⟨rfl, rfl⟩ := EStateM.Result.ok.inj h
    exact ⟨hs, rfl⟩
  · contradiction

/-- What a resolution finds is what a candidate proposes. -/
theorem exists_candidate_of_resolve {resolution : Resolution ι}
    (h : resolve s lookup r t = .ok resolution t') :
    ∃ c ∈ r.candidates s, ∃ value,
      resolution = ⟨c.pattern, r.capability, value, ⟨r.applied, c.form, c.residuals⟩⟩ := by
  obtain ⟨hsearch, hcapability⟩ := search_of_resolve h
  obtain ⟨c, hc, _, hfound⟩ := hit_of_search hsearch
  obtain ⟨hpattern, _, hequality⟩ := Found.mk.inj hfound
  refine ⟨c, hc, resolution.value, ?_⟩
  rw [← hpattern, ← hcapability, ← hequality]

end

theorem Resolution.exists_residual {ι : Type} {r : Resolution ι} (h : r.residuals.length = 1) :
    ∃ a, r.residual? = some a := by
  obtain ⟨a, ha⟩ := List.length_eq_one_iff.mp h
  exact ⟨a, by rw [residual?, ha]⟩

theorem Resolution.exists_residualPair {ι : Type} {r : Resolution ι} (h : r.residuals.length = 2) :
    ∃ a b, r.residualPair? = some (a, b) := by
  obtain ⟨a, b, hab⟩ := List.length_eq_two.mp h
  exact ⟨a, b, by rw [residualPair?, hab]⟩

/-- Every match certifies. To match a stored type, and to compare a form with it, stored types are
looked up and no others, and what is matched is made of stored types. No search or resolution comes
to a match that does not certify: it fails only for want of an instance, and the residuals of its
result can be read off. -/
theorem every_match_certifies {s : Store} (hs : s.Reachable) {x : TypeId} (hx : x ∈ s) :
    (∀ y ∈ (s.spine x).prefixes ++ (s.spine x).arguments, y ∈ s) ∧
    (∀ p : Pattern, ∀ id ∈ (p.check s (s.spine x)).ids, id ∈ s ∧ s.kind? id = some (s.kind id)) ∧
    (∀ (f : Form) residuals,
      (f.body.check s residuals x).value = f.body.reconstructs s residuals x ∧
        ∀ id ∈ (f.body.check s residuals x).ids, id ∈ s) ∧
    (∀ slots form residuals, Form.decompose s (s.spine x) slots = some (form, residuals) →
      (form.body.Over s ∧ ∀ r ∈ residuals, r ∈ s) ∧
        residuals.length = form.arity ∧ form.reconstructs s residuals x = true ∧
        Equality.certify s x form residuals = some ⟨x, form, residuals⟩) ∧
    (∀ p c, Pattern.candidate? s x p = some c →
      (c.form.body.Over s ∧ ∀ r ∈ c.residuals, r ∈ s) ∧
        c.residuals.length = c.form.arity ∧ c.form.reconstructs s c.residuals x = true ∧
        Equality.certify s x c.form c.residuals = some ⟨x, c.form, c.residuals⟩ ∧
        (p ∈ Catalog.single.patterns → c.residuals.length = 1) ∧
        (p ∈ Catalog.dual.patterns ∨ p ∈ Catalog.nested.patterns → c.residuals.length = 2)) ∧
    ∀ {σ ι : Type} (lookup : Lookup σ ι) (k : Catalog) (capability : Capability) (t : Session σ),
      (∀ e t', search s lookup ⟨k, capability, x⟩ t = .error e t' ∨
          resolve s lookup ⟨k, capability, x⟩ t = .error e t' →
        ∀ p, e.cause ≠ .uncertified p) ∧
      (∀ found t', search s lookup ⟨k, capability, x⟩ t = .ok found t' →
        found.equality.residuals.length = k.holes) ∧
      ∀ resolution t', resolve s lookup ⟨k, capability, x⟩ t = .ok resolution t' →
        (k = .single → ∃ a, resolution.residual? = some a) ∧
        (k ≠ .single → ∃ a b, resolution.residualPair? = some (a, b)) := by
  have hw := hs.wellFormed
  have hspine := Store.spine_over hw hx
  refine ⟨?_, ?_, ?_, ?_, ?_, ?_⟩
  · exact List.forall_mem_append.mpr ⟨hspine.prefixes_mem, hspine.arguments_mem⟩
  · intro p id hid
    have hmem := p.check_within hw hx id hid
    exact ⟨hmem, Store.kind?_eq_some_kind hmem⟩
  · intro f residuals
    exact ⟨f.body.value_check s residuals x, f.body.check_within hw residuals hx⟩
  · intro slots form residuals h
    obtain ⟨d⟩ := (Form.decompose_eq_some_iff ..).mp h
    exact ⟨⟨(d.valid hw hspine).stored, d.residuals_mem hw⟩, d.length_residuals, d.reconstructs,
      d.certify_eq⟩
  · intro p c h
    have hr := Pattern.reconstructs_of_candidate? h
    refine ⟨⟨(Pattern.valid_of_candidate? hw hx h).stored,
      Pattern.residuals_mem_of_candidate? hw hx h⟩, Form.length_of_reconstructs hr, hr,
      Equality.certify_eq_some_iff.mpr ⟨hr, rfl⟩, ?_, ?_⟩
    · intro hp
      exact Catalog.length_residuals hp h
    · rintro (hp | hp)
      · exact Catalog.length_residuals hp h
      · exact Catalog.length_residuals hp h
  · intro σ ι lookup k capability t
    refine ⟨?_, ?_, ?_⟩
    · intro e t' h p
      have hsearch : search s lookup ⟨k, capability, x⟩ t = .error e t' := by
        rcases h with h | h
        · exact h
        · exact error_of_resolve h
      rw [error_of_search hsearch]
      simp
    · intro found t' h
      exact length_residuals_of_search h
    · intro resolution t' h
      have hlength := length_residuals_of_search (search_of_resolve h).1
      constructor
      · rintro rfl
        exact Resolution.exists_residual hlength
      · intro hk
        apply Resolution.exists_residualPair
        cases k with
        | single => exact absurd rfl hk
        | dual => exact hlength
        | nested => exact hlength

/-- `Bifunctor` at `\a b -> Pair a b`. -/
def InstanceHead.pairBoth : InstanceHead :=
  ⟨⟨"Bifunctor"⟩, ⟨2, .application (.application (.fixed ⟨2⟩) (.hole 0)) (.hole 1)⟩, []⟩

/-- To match `Pair Int String` as `\a b -> Pair a b`, its kind and those of `Int` and `String` are
looked up, and to compare the form with it, it is taken apart and `Pair Int` too. An id that the
store did not issue, such as the seventh, has no kind there. The match certifies, and with an
instance for its form both residuals are read off. -/
theorem certified_pair_int_string :
    (Pattern.binaryBoth.check Store.pairs (Store.pairs.spine ⟨4⟩)).ids = [⟨4⟩, ⟨0⟩, ⟨1⟩] ∧
    (InstanceHead.pairBoth.form.body.check Store.pairs [⟨0⟩, ⟨1⟩] ⟨4⟩).ids = [⟨4⟩, ⟨3⟩] ∧
    (∀ id ∈ [(⟨4⟩ : TypeId), ⟨0⟩, ⟨1⟩] ++ [⟨4⟩, ⟨3⟩], id ∈ Store.pairs) ∧
    Store.pairs.kind? ⟨7⟩ = none ∧
    Pattern.binaryBoth.candidate? Store.pairs ⟨4⟩ =
      some ⟨.binaryBoth, InstanceHead.pairBoth.form, [⟨0⟩, ⟨1⟩]⟩ ∧
    Equality.certify Store.pairs ⟨4⟩ InstanceHead.pairBoth.form [⟨0⟩, ⟨1⟩] =
      some ⟨⟨4⟩, InstanceHead.pairBoth.form, [⟨0⟩, ⟨1⟩]⟩ ∧
    ∃ resolution t, resolve Store.pairs (Environment.empty.register .pairBoth "both").lookup
        ⟨.dual, ⟨"Bifunctor"⟩, ⟨4⟩⟩ ⟨(), none, []⟩ = .ok resolution t ∧
      ∃ a b, resolution.residualPair? = some (a, b) := by
  let lookup : Lookup Unit String := (Environment.empty.register .pairBoth "both").lookup
  let r : Request := ⟨.dual, ⟨"Bifunctor"⟩, ⟨4⟩⟩
  obtain ⟨_, hread, hcompared, _, hcertify, hruns⟩ :=
    every_match_certifies Store.reachable_pairs (x := ⟨4⟩) (by decide +kernel)
  have hids : (Pattern.binaryBoth.check Store.pairs (Store.pairs.spine ⟨4⟩)).ids =
      [⟨4⟩, ⟨0⟩, ⟨1⟩] := by decide +kernel
  have hsides : (InstanceHead.pairBoth.form.body.check Store.pairs [⟨0⟩, ⟨1⟩] ⟨4⟩).ids =
      [⟨4⟩, ⟨3⟩] := by decide +kernel
  have hcandidate : Pattern.binaryBoth.candidate? Store.pairs ⟨4⟩ =
      some ⟨.binaryBoth, InstanceHead.pairBoth.form, [⟨0⟩, ⟨1⟩]⟩ := by decide +kernel
  have hfound : Resolving.outcome (resolve Store.pairs lookup r ⟨(), none, []⟩) =
      .ok ⟨.binaryBoth, r.capability, "both", ⟨⟨4⟩, InstanceHead.pairBoth.form, [⟨0⟩, ⟨1⟩]⟩⟩ := by
    decide +kernel
  have hresolve := Resolving.eq_ok_of_outcome hfound
  have hpair := ((hruns lookup r.catalog r.capability _).2.2 _ _ hresolve).2 (by decide)
  refine ⟨hids, hsides, ?_, by decide +kernel, hcandidate, (hcertify _ _ hcandidate).2.2.2.1,
    _, _, hresolve, hpair⟩
  refine List.forall_mem_append.mpr ⟨fun id hid => ?_, fun id hid => ?_⟩
  · exact (hread .binaryBoth id (hids ▸ hid)).1
  · exact (hcompared InstanceHead.pairBoth.form _).2 id (hsides ▸ hid)

end FormRecovery
