import FormRecovery.Prelude
import FormRecovery.Proofs.Correspondence
import FormRecovery.Proofs.Registration
import FormRecovery.Proofs.Residuals
import Mathlib.Data.List.Nodup

/-!
The candidates of one type beside each other. The patterns of a catalog that match a type ask for as
many arguments and the same of the first one, which at most two of them do beside the constant one,
and no two propose one form. So a search asks for no head twice, and no candidate stands in the way
of another.
-/
namespace FormRecovery

variable {σ ι : Type}

namespace Catalog

/-- The most candidates that a type has. -/
def most : Catalog → Nat
  | single => 3
  | dual => 1
  | nested => 1

theorem count_alike_le (k : Catalog) : ∀ p ∈ Pattern.all,
    k.patterns.countP (fun q => q = .constant ∨ p.Alike q) ≤ k.most := by
  cases k <;> decide

theorem nodup_patterns (k : Catalog) : k.patterns.Nodup := by
  cases k <;> decide

theorem mem_all (k : Catalog) : ∀ p ∈ k.patterns, p ∈ Pattern.all := by
  cases k <;> decide

variable (s : Store) (x : TypeId) (k : Catalog)

/-- All patterns that propose something for a type are alike, the constant one apart. -/
theorem exists_alike : ∃ p ∈ Pattern.all, ∀ q ∈ k.patterns, (q.candidate? s x).isSome = true →
    q = .constant ∨ p.Alike q := by
  by_cases h : ∃ p ∈ k.patterns, p ≠ .constant ∧ (p.candidate? s x).isSome = true
  · obtain ⟨p, hp, hpc, hproposes⟩ := h
    obtain ⟨a, ha⟩ := Option.isSome_iff_exists.mp hproposes
    refine ⟨p, k.mem_all p hp, ?_⟩
    intro q hq hproposes'
    obtain ⟨b, hb⟩ := Option.isSome_iff_exists.mp hproposes'
    by_cases hqc : q = .constant
    · exact .inl hqc
    · exact .inr (alike_of_candidates hp hq hpc hqc ha hb)
  · refine ⟨.constant, by decide, ?_⟩
    intro q hq hproposes
    by_contra hne
    exact h ⟨q, hq, (not_or.mp hne).1, hproposes⟩

theorem length_candidates_le : (k.candidates s x).length ≤ k.most := by
  obtain ⟨p, hp, halike⟩ := exists_alike s x k
  calc (k.candidates s x).length
      = k.patterns.countP fun q => (q.candidate? s x).isSome := List.length_filterMap_eq_countP
    _ ≤ k.patterns.countP fun q => q = .constant ∨ p.Alike q :=
        List.countP_mono_left fun q hq hproposes => decide_eq_true (halike q hq hproposes)
    _ ≤ k.most := k.count_alike_le p hp

theorem nodup_candidates : (k.candidates s x).Nodup :=
  List.Nodup.of_map (·.pattern) ((k.sublist_patterns s x).nodup k.nodup_patterns)

theorem nodup_forms : ((k.candidates s x).map (·.form)).Nodup :=
  List.Nodup.map_on (fun _ ha _ hb h => eq_of_form_eq ha hb h) (k.nodup_candidates s x)

theorem nodup_heads (capability : Capability) :
    ((k.candidates s x).map (k.head capability)).Nodup :=
  List.Nodup.map_on (fun _ ha _ hb h => eq_of_head_eq ha hb h) (k.nodup_candidates s x)

variable {s x k}

/-- Only the constant pattern proposes a constant form. -/
theorem isConstant_iff {c : Candidate} (hc : c ∈ k.candidates s x) :
    c.form.isConstant = true ↔ c = ⟨.constant, .constant x, [x]⟩ := by
  obtain ⟨_, h⟩ := (mem_candidates_iff ..).mp hc
  by_cases hp : c.pattern = .constant
  · rw [hp, Pattern.candidate?_constant] at h
    obtain rfl := Option.some.inj h
    simp [Form.isConstant, Form.constant, Template.isClosed]
  · obtain ⟨_, _, ⟨d⟩⟩ := (Pattern.candidate?_eq_some_iff hp s x c).mp h
    have hopen := d.full.not_isConstant (by rw [d.arity_eq]; exact Nat.succ_pos _)
    have hne : c ≠ ⟨.constant, .constant x, [x]⟩ := by
      rintro rfl
      exact hp rfl
    simp [hopen, hne]

end Catalog

/-- The questions asked are the heads of the first candidates, in order. -/
theorem Survey.questions_prefix (lookup : Lookup σ ι) (r : Request) (cs : List Candidate) (m : σ) :
    ((survey lookup r cs m).questions r).map (·.1) <+: cs.map r.head := by
  cases hhit : (survey lookup r cs m).hit with
  | none =>
    rw [questions, hhit, missed_of_hit_none lookup r cs m hhit, List.append_nil, List.map_map]
    exact List.prefix_rfl
  | some found =>
    obtain ⟨c, value⟩ := found
    obtain ⟨rest, hsplit⟩ := split_of_hit lookup r cs m c value hhit
    refine ⟨rest.map r.head, ?_⟩
    conv_rhs => rw [hsplit]
    simp [questions, hhit]

/-- A search asks the questions of its survey and no others. -/
theorem asked_of_search (s : Store) (lookup : Lookup σ ι) (r : Request)
    (t : Session (σ × List (InstanceHead × Option ι))) :
    (Resolving.left (search s lookup.recorded r t)).memory.2 =
      t.memory.2 ++ (survey lookup r (r.candidates s) t.memory.1).questions r := by
  have hsurvey := survey_recorded lookup r (r.candidates s) t.memory.1 t.memory.2
  rw [Resolving.left_search, hsurvey]
  rfl

/-- A type has one to three candidates with one hole, of which the last is the only constant one,
and at most one with two holes in each of the other catalogs. No two candidates from one catalog
have the same form, no search asks for a head twice, and each candidate is the result where only its
head has an instance. -/
theorem candidates_do_not_shadow (s : Store) (x : TypeId) :
    (1 ≤ (Catalog.single.candidates s x).length ∧ (Catalog.single.candidates s x).length ≤ 3 ∧
      (Catalog.single.candidates s x).getLast? = some ⟨.constant, .constant x, [x]⟩ ∧
      ∀ c ∈ Catalog.single.candidates s x,
        c.form.isConstant = true ↔ c = ⟨.constant, .constant x, [x]⟩) ∧
    (Catalog.dual.candidates s x).length ≤ 1 ∧ (Catalog.nested.candidates s x).length ≤ 1 ∧
    ∀ (k : Catalog) (capability : Capability),
      ((k.candidates s x).map (·.form)).Nodup ∧
      (∀ (lookup : Lookup σ ι) (t : Session (σ × List (InstanceHead × Option ι))),
        ∃ asked, (asked.map (·.1)).Nodup ∧
          (Resolving.left (search s lookup.recorded ⟨k, capability, x⟩ t)).memory.2 =
            t.memory.2 ++ asked) ∧
      ∀ c ∈ k.candidates s x, ∀ (value : ι) (t : Session σ),
        ∃ u, resolve s (Environment.only (k.head capability c) value).lookup ⟨k, capability, x⟩ t =
          .ok ⟨c.pattern, capability, value, ⟨x, c.form, c.residuals⟩⟩ u := by
  have hlast := Catalog.getLast?_candidates_single s x
  refine ⟨⟨?_, Catalog.length_candidates_le s x .single, hlast, ?_⟩,
    Catalog.length_candidates_le s x .dual, Catalog.length_candidates_le s x .nested, ?_⟩
  · exact List.length_pos_of_mem (List.mem_of_getLast? hlast)
  · intro c hc
    exact Catalog.isConstant_iff hc
  intro k capability
  refine ⟨k.nodup_forms s x, ?_, ?_⟩
  · intro lookup t
    let r : Request := ⟨k, capability, x⟩
    have hprefix := Survey.questions_prefix lookup r (r.candidates s) t.memory.1
    exact ⟨_, hprefix.sublist.nodup (k.nodup_heads s x capability), asked_of_search s lookup r t⟩
  · intro c hc value t
    exact resolve_of_only (r := ⟨k, capability, x⟩) hc value t

/-- The common constructors with `IndexedState Box Int Int Int`. -/
def Store.indexed : Store := (Operation.applyAll ⟨10⟩ [⟨3⟩, ⟨0⟩, ⟨0⟩, ⟨0⟩]).after Prelude.store

/-- `IndexedState Box Int Int Int` has three candidates, all but the last with the residual `Int`.
The second, `\a -> IndexedState Box Int Int a`, is found where it alone has an instance, although
the first one, `\a -> IndexedState Box a a Int`, matches as well. -/
theorem candidates_of_indexed :
    (Catalog.single.candidates .indexed ⟨19⟩).map (·.pattern) =
      [.constructorCoupled, .constructorTrailing, .constant] ∧
    ((Catalog.single.candidates .indexed ⟨19⟩).map (·.form)).Nodup ∧
    ∃ u, resolve .indexed (Environment.only (Catalog.single.head ⟨"Functor"⟩
        ⟨.constructorTrailing, .ofConstructor ⟨18⟩, [⟨0⟩]⟩) "map").lookup
          ⟨.single, ⟨"Functor"⟩, ⟨19⟩⟩ ⟨(), none, []⟩ =
      .ok ⟨.constructorTrailing, ⟨"Functor"⟩, "map", ⟨⟨19⟩, .ofConstructor ⟨18⟩, [⟨0⟩]⟩⟩ u := by
  have hmem : ⟨.constructorTrailing, .ofConstructor ⟨18⟩, [⟨0⟩]⟩ ∈
      Catalog.single.candidates .indexed ⟨19⟩ := by decide +kernel
  obtain ⟨_, _, _, hcatalogs⟩ := candidates_do_not_shadow (σ := Unit) (ι := String) .indexed ⟨19⟩
  obtain ⟨hforms, _, halone⟩ := hcatalogs .single ⟨"Functor"⟩
  exact ⟨by decide +kernel, hforms, halone _ hmem "map" ⟨(), none, []⟩⟩

end FormRecovery
