import FormRecovery.Proofs.CanonicalKeys
import FormRecovery.Proofs.Certification
import FormRecovery.Proofs.Renaming

/-!
Resolutions depend on the structure of types only. Two searches for a type and for its image under a
renaming, with services that answer a head and its image alike, ask for corresponding heads and end
alike: with the same pattern and instance and the image of the evidence, or with the same patterns
attempted.
-/
namespace FormRecovery

variable {σ τ ι : Type}

section

variable (ρ : TypeId → TypeId)

def Equality.rename (e : Equality) : Equality := ⟨ρ e.applied, e.form.rename ρ, e.residuals.map ρ⟩

def InstanceHead.rename (h : InstanceHead) : InstanceHead :=
  ⟨h.capability, h.form.rename ρ, h.arguments.map ρ⟩

def Request.rename (r : Request) : Request := ⟨r.catalog, r.capability, ρ r.applied⟩

def Found.rename (f : Found ι) : Found ι := ⟨f.pattern, f.value, f.equality.rename ρ⟩

def Resolution.rename (r : Resolution ι) : Resolution ι :=
  ⟨r.pattern, r.capability, r.value, r.equality.rename ρ⟩

def Cause.rename : Cause → Cause
  | noViableDecomposition capability applied attempted =>
    noViableDecomposition capability (ρ applied) attempted
  | capabilityMismatch first second => capabilityMismatch first second
  | isomorphismMismatch first second left right =>
    isomorphismMismatch (first.rename ρ) (second.rename ρ) (left.rename ρ) (right.rename ρ)
  | uncertified pattern => uncertified pattern

def ResolveError.rename (e : ResolveError) : ResolveError := ⟨e.cause.rename ρ, e.crumbs⟩

theorem Request.head_rename (r : Request) (c : Candidate) :
    (r.rename ρ).head (c.rename ρ) = (r.head c).rename ρ := by
  obtain ⟨k, capability, applied⟩ := r
  cases k with
  | single => rfl
  | dual => rfl
  | nested => simp [head, rename, Catalog.head, Candidate.rename, InstanceHead.rename]

end

@[simp] theorem InstanceHead.rename_id (h : InstanceHead) : h.rename (fun id => id) = h := by
  simp [rename]

@[simp] theorem Resolution.rename_id (r : Resolution ι) : r.rename (fun id => id) = r := by
  simp [rename, Equality.rename]

@[simp] theorem ResolveError.rename_id (e : ResolveError) : e.rename (fun id => id) = e := by
  obtain ⟨cause, crumbs⟩ := e
  cases cause <;> simp [rename, Cause.rename]

/-- All types of the head are stored. -/
def InstanceHead.Over (s : Store) (h : InstanceHead) : Prop :=
  h.form.body.Over s ∧ ∀ x ∈ h.arguments, x ∈ s

/-- What is looked up for a stored type mentions stored types only. -/
theorem Request.head_over {s : Store} (hs : s.WellFormed) {r : Request} (hx : r.applied ∈ s)
    {c : Candidate} (hc : c ∈ r.candidates s) : (r.head c).Over s := by
  obtain ⟨_, hcandidate⟩ := (Catalog.mem_candidates_iff ..).mp hc
  have hform := (Pattern.valid_of_candidate? hs hx hcandidate).stored
  have hresiduals := Pattern.residuals_mem_of_candidate? hs hx hcandidate
  obtain ⟨k, capability, applied⟩ := r
  cases k with
  | single => exact ⟨hform, by simp [head, Catalog.head]⟩
  | dual => exact ⟨hform, by simp [head, Catalog.head]⟩
  | nested => exact ⟨hform, fun y hy => hresiduals y (List.mem_of_mem_take hy)⟩

/-- Two services with related memories answer a stored head and its image alike, and their memories
stay related. -/
structure Lookup.Alike {s t : Store} (ρ : s.Renaming t) (lookup : Lookup σ ι) (lookup' : Lookup τ ι)
    (Related : σ → τ → Prop) : Prop where
  answer : ∀ head, head.Over s → ∀ m n, Related m n →
    ((lookup' (head.rename ρ)).run n).1 = ((lookup head).run m).1
  memory : ∀ head, head.Over s → ∀ m n, Related m n →
    Related ((lookup head).run m).2 ((lookup' (head.rename ρ)).run n).2

section

variable {s t : Store} {ρ : s.Renaming t} {lookup : Lookup σ ι} {lookup' : Lookup τ ι}
  {Related : σ → τ → Prop}

/-- Asking in turn for the images misses and hits the images. -/
theorem survey_rename (alike : lookup.Alike ρ lookup' Related) (r : Request) {cs : List Candidate}
    (hcs : ∀ c ∈ cs, (r.head c).Over s) {m : σ} {n : τ} (h : Related m n) :
    (survey lookup' (r.rename ρ) (cs.map (·.rename ρ)) n).missed =
        (survey lookup r cs m).missed.map (·.rename ρ) ∧
      (survey lookup' (r.rename ρ) (cs.map (·.rename ρ)) n).hit =
        (survey lookup r cs m).hit.map (fun (c, value) => (c.rename ρ, value)) ∧
      Related (survey lookup r cs m).memory
        (survey lookup' (r.rename ρ) (cs.map (·.rename ρ)) n).memory := by
  induction cs generalizing m n with
  | nil => exact ⟨rfl, rfl, h⟩
  | cons c rest ih =>
    rw [List.forall_mem_cons] at hcs
    have hanswer := alike.answer (r.head c) hcs.1 m n h
    have hmemory := alike.memory (r.head c) hcs.1 m n h
    rw [List.map_cons, survey, survey, r.head_rename ρ c]
    generalize (lookup (r.head c)).run m = result at hanswer hmemory ⊢
    generalize (lookup' ((r.head c).rename ρ)).run n = result' at hanswer hmemory ⊢
    obtain ⟨answer, m'⟩ := result
    obtain ⟨answer', n'⟩ := result'
    obtain rfl : answer' = answer := hanswer
    cases answer' with
    | none =>
      obtain ⟨h₁, h₂, h₃⟩ := ih hcs.2 hmemory
      exact ⟨congrArg (c.rename ρ :: ·) h₁, h₂, h₃⟩
    | some value => exact ⟨rfl, rfl, hmemory⟩

variable (hs : s.WellFormed) (ht : t.WellFormed)

include hs ht

/-- A search for the image ends with the image of what a search for the type ends with. -/
theorem search_rename (alike : lookup.Alike ρ lookup' Related) {r : Request} (hx : r.applied ∈ s)
    {u : Session σ} {u' : Session τ} (h : Related u.memory u'.memory) :
    Resolving.outcome (search t lookup' (r.rename ρ) u') =
        ((Resolving.outcome (search s lookup r u)).map (·.rename ρ)).mapError (·.rename ρ) ∧
      Related (Resolving.left (search s lookup r u)).memory
        (Resolving.left (search t lookup' (r.rename ρ) u')).memory := by
  have hcandidates : (r.rename ρ).candidates t = (r.candidates s).map (·.rename ρ) :=
    r.catalog.candidates_map ρ hs ht hx
  obtain ⟨hmissed, hhit, hmemory⟩ :=
    survey_rename alike r (fun c hc => Request.head_over hs hx hc) h
  rw [← hcandidates] at hmissed hhit hmemory
  rw [search_eq, search_eq]
  unfold Survey.conclude
  rw [hhit, hmissed]
  cases (survey lookup r (r.candidates s) u.memory).hit with
  | some found => exact ⟨rfl, hmemory⟩
  | none =>
    refine ⟨?_, hmemory⟩
    simp only [List.map_map]
    rfl

/-- A resolution of the image ends with the image of what a resolution of the type ends with. -/
theorem resolve_rename (alike : lookup.Alike ρ lookup' Related) {r : Request} (hx : r.applied ∈ s)
    {u : Session σ} {u' : Session τ} (h : Related u.memory u'.memory) :
    Resolving.outcome (resolve t lookup' (r.rename ρ) u') =
        ((Resolving.outcome (resolve s lookup r u)).map (·.rename ρ)).mapError (·.rename ρ) ∧
      Related (Resolving.left (resolve s lookup r u)).memory
        (Resolving.left (resolve t lookup' (r.rename ρ) u')).memory := by
  obtain ⟨houtcome, hmemory⟩ := search_rename hs ht alike hx h
  rw [Resolving.left_resolve, Resolving.left_resolve]
  refine ⟨?_, hmemory⟩
  rw [Resolving.outcome_resolve, Resolving.outcome_resolve, houtcome]
  cases Resolving.outcome (search s lookup r u) <;> rfl

end

end FormRecovery
