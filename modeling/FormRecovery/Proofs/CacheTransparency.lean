import FormRecovery.Cache
import FormRecovery.Proofs.Correspondence
import Mathlib.Data.List.Dedup

/-!
The cache does not show. A resolution depends on the structure of the type only, so what one ended
with in an earlier store it ends with now. Each request is answered as a resolution would answer it,
and the service is asked for the first request of a key only.
-/
namespace FormRecovery

variable {σ ι : Type}

/-- The service answers by this function, whatever it remembers. -/
def Lookup.Answers (lookup : Lookup σ ι) (f : InstanceHead → Option ι) : Prop :=
  ∀ head m, ((lookup head).run m).1 = f head

theorem Environment.answers (env : Environment ι) : (env.lookup (σ := σ)).Answers env.get? :=
  fun _ _ => rfl

section

variable {s s' : Store} {lookup : Lookup σ ι} {f : InstanceHead → Option ι}

theorem Lookup.Answers.alike_later (hf : lookup.Answers f) (hle : s ≤ s') :
    lookup.Alike (.later hle) lookup fun _ _ => True where
  answer head _ m n _ := by
    have hhead : head.rename (Store.Renaming.later hle) = head := head.rename_id
    rw [hhead, hf, hf]
  memory _ _ _ _ _ := trivial

/-- A resolution ends in a later store and in another session as it did before. -/
theorem outcome_resolve_of_le (hf : lookup.Answers f) (hs : s.WellFormed) (hs' : s'.WellFormed)
    (hle : s ≤ s') {r : Request} (hx : r.applied ∈ s) (t t' : Session σ) :
    Resolving.outcome (resolve s' lookup r t') = Resolving.outcome (resolve s lookup r t) := by
  refine Eq.trans (resolve_rename hs hs' (hf.alike_later hle) hx (u := t) trivial).1 ?_
  cases Resolving.outcome (resolve s lookup r t) with
  | ok resolution => exact congrArg Except.ok resolution.rename_id
  | error e => exact congrArg Except.error e.rename_id

end

namespace Cache

section

variable {s : Store} {lookup : Lookup σ ι} {c : Cache ι} {key : CacheKey} {t : Session σ}
  {result : Except ResolveError (Resolution ι)}

theorem get?_eq_none_iff : c.get? key = none ↔ key ∉ c.entries.map (·.1) := by
  simp only [get?, Option.map_eq_none_iff, List.find?_eq_none, beq_iff_eq, List.mem_map, not_exists,
    not_and]

theorem mem_of_get? (h : c.get? key = some result) : (key, result) ∈ c.entries := by
  unfold get? at h
  obtain ⟨⟨key', result'⟩, hfind, rfl⟩ := Option.map_eq_some_iff.mp h
  obtain rfl : key' = key := by simpa using List.find?_some hfind
  exact List.mem_of_find?_eq_some hfind

theorem resolve_of_hit (h : c.get? key = some result) :
    c.resolve s lookup key t = (result, { c with hits := c.hits + 1 }, t) := by
  simp only [resolve, h]

theorem resolve_of_miss (h : c.get? key = none) :
    c.resolve s lookup key t =
      (Resolving.outcome (FormRecovery.resolve s lookup (request key) t),
        { c with
          entries :=
            (key, Resolving.outcome (FormRecovery.resolve s lookup (request key) t)) :: c.entries },
        Resolving.left (FormRecovery.resolve s lookup (request key) t)) := by
  simp only [resolve, h]
  cases FormRecovery.resolve s lookup (request key) t <;> rfl

end

/-- A run of the cache next to the store that it is used with, each request in any session. The keys
are those requested since the cache was last cleared, the latest first. -/
inductive Runs (lookup : Lookup σ ι) : Store → Cache ι → List CacheKey → Prop where
  | start (hash : Shape → UInt64) : Runs lookup (.emptyWith hash) empty []
  | operation {s : Store} {c : Cache ι} {keys : List CacheKey} (earlier : Runs lookup s c keys)
      (op : Operation) (issued : op.Issued s) : Runs lookup (op.after s) c keys
  | resolve {s : Store} {c : Cache ι} {keys : List CacheKey} (earlier : Runs lookup s c keys)
      (key : CacheKey) (stored : key.applied ∈ s) (t : Session σ) :
      Runs lookup s (c.resolve s lookup key t).2.1 (key :: keys)
  | clear {s : Store} {c : Cache ι} {keys : List CacheKey} (earlier : Runs lookup s c keys) :
      Runs lookup s c.clear []

/-- The cache has one entry for each of the keys, with what a resolution now ends with, and has
counted the other requests. -/
structure Faithful (lookup : Lookup σ ι) (s : Store) (c : Cache ι) (keys : List CacheKey) :
    Prop where
  entries_keys : c.entries.map (·.1) = keys.dedup
  requests : c.hits + c.entries.length = keys.length
  stored : ∀ key ∈ keys, key.applied ∈ s
  results : ∀ entry ∈ c.entries, ∀ t,
    entry.2 = Resolving.outcome (FormRecovery.resolve s lookup (request entry.1) t)

namespace Faithful

variable {s s' : Store} {lookup : Lookup σ ι} {f : InstanceHead → Option ι} {c : Cache ι}
  {keys : List CacheKey} {key : CacheKey}

theorem empty : Faithful lookup s empty [] where
  entries_keys := rfl
  requests := rfl
  stored := by simp
  results := by simp [Cache.empty]

theorem mem_keys (h : Faithful lookup s c keys)
    {entry : CacheKey × Except ResolveError (Resolution ι)} (hentry : entry ∈ c.entries) :
    entry.1 ∈ keys := by
  rw [← List.mem_dedup, ← h.entries_keys]
  exact List.mem_map_of_mem hentry

theorem get?_eq_none_iff (h : Faithful lookup s c keys) : c.get? key = none ↔ key ∉ keys := by
  rw [Cache.get?_eq_none_iff, h.entries_keys, List.mem_dedup]

/-- A later store changes no result. -/
theorem of_le (hf : lookup.Answers f) (hs : s.WellFormed) (hs' : s'.WellFormed) (hle : s ≤ s')
    (h : Faithful lookup s c keys) : Faithful lookup s' c keys where
  entries_keys := h.entries_keys
  requests := h.requests
  stored key hkey := Store.mem_of_le hle (h.stored key hkey)
  results entry hentry t := by
    rw [h.results entry hentry t]
    exact (outcome_resolve_of_le hf hs hs' hle (h.stored _ (h.mem_keys hentry)) t t).symm

theorem resolve (hf : lookup.Answers f) (hs : s.WellFormed) (h : Faithful lookup s c keys)
    (hkey : key.applied ∈ s) (t : Session σ) :
    Faithful lookup s (c.resolve s lookup key t).2.1 (key :: keys) := by
  have hstored : ∀ k ∈ key :: keys, k.applied ∈ s := List.forall_mem_cons.mpr ⟨hkey, h.stored⟩
  have hrequests := h.requests
  cases hget : c.get? key with
  | some result =>
    rw [resolve_of_hit hget]
    refine ⟨?_, ?_, hstored, h.results⟩
    · rw [List.dedup_cons_of_mem (h.mem_keys (mem_of_get? hget))]
      exact h.entries_keys
    · simp only [List.length_cons]
      omega
  | none =>
    have hnew := h.get?_eq_none_iff.mp hget
    rw [resolve_of_miss hget]
    refine ⟨?_, ?_, hstored, ?_⟩
    · rw [List.dedup_cons_of_notMem hnew, List.map_cons, h.entries_keys]
    · simp only [List.length_cons]
      omega
    · intro entry hentry t'
      rcases List.mem_cons.mp hentry with rfl | hold
      · exact outcome_resolve_of_le hf hs hs (Store.le_refl s) hkey t' t
      · exact h.results entry hold t'

end Faithful

namespace Runs

variable {s : Store} {lookup : Lookup σ ι} {f : InstanceHead → Option ι} {c : Cache ι}
  {keys : List CacheKey}

theorem reachable (h : Runs lookup s c keys) : s.Reachable := by
  induction h with
  | start hash => exact .empty hash
  | operation _ op issued ih => exact .step ih op issued
  | resolve _ _ _ _ ih => exact ih
  | clear _ ih => exact ih

theorem faithful (hf : lookup.Answers f) (h : Runs lookup s c keys) : Faithful lookup s c keys := by
  induction h with
  | start => exact .empty
  | operation earlier op issued ih =>
    have hnext : Runs lookup (op.after _) _ _ := .operation earlier op issued
    exact ih.of_le hf earlier.reachable.wellFormed hnext.reachable.wellFormed
      (Operation.grows_after issued).le
  | resolve earlier key stored t ih => exact ih.resolve hf earlier.reachable.wellFormed stored t
  | clear _ _ => exact .empty

end Runs

theorem runs_of_reachable {s : Store} (lookup : Lookup σ ι) (h : s.Reachable) :
    Runs lookup s empty [] := by
  induction h with
  | empty hash => exact .start hash
  | step _ op issued ih => exact .operation ih op issued

end Cache

/-- At every moment of a run the cache answers a request as a resolution in the present store does.
It asks nothing for a key that was requested since it was last cleared, and for another key what the
resolution asks. Its entries are the keys requested, its hits the other requests. -/
theorem cache_is_transparent {lookup : Lookup σ ι} {f : InstanceHead → Option ι}
    (hf : lookup.Answers f) {s : Store} {c : Cache ι} {keys : List CacheKey}
    (h : c.Runs lookup s keys) :
    (∀ key t, (c.resolve s lookup key t).1 =
      Resolving.outcome (resolve s lookup (Cache.request key) t)) ∧
    (∀ key ∈ keys, ∀ t, (c.resolve s lookup.recorded key t).2.2 = t) ∧
    (∀ key, key ∉ keys → ∀ t, (c.resolve s lookup.recorded key t).2.2 =
      Resolving.left (resolve s lookup.recorded (Cache.request key) t)) ∧
    c.size = keys.dedup.length ∧ c.hits + c.size = keys.length := by
  have hfaithful := h.faithful hf
  refine ⟨?_, ?_, ?_, ?_, hfaithful.requests⟩
  · intro key t
    cases hget : c.get? key with
    | some result =>
      rw [Cache.resolve_of_hit hget]
      exact hfaithful.results _ (Cache.mem_of_get? hget) t
    | none => rw [Cache.resolve_of_miss hget]
  · intro key hkey t
    cases hget : c.get? key with
    | some result => rw [Cache.resolve_of_hit hget]
    | none => exact absurd hkey (hfaithful.get?_eq_none_iff.mp hget)
  · intro key hkey t
    rw [Cache.resolve_of_miss (hfaithful.get?_eq_none_iff.mpr hkey)]
  · rw [← hfaithful.entries_keys, List.length_map, Cache.size]

/-- One instance, of `Functor` for `\a -> Pair Int a`. -/
def Environment.functorOfPair : Environment String :=
  .ofForms ⟨"Functor"⟩ [⟨1, .application (.fixed ⟨3⟩) (.hole 0)⟩] "map"

/-- `Pair Int String` is requested for `Functor` and in vain for `Show`, then `Unit` is declared and
both are requested again. Two entries have answered four requests, and a fifth asks nothing. -/
theorem cache_over_pair :
    ∃ s c, Cache.Runs (σ := Unit) Environment.functorOfPair.lookup s c
        [⟨⟨"Show"⟩, ⟨4⟩⟩, ⟨⟨"Functor"⟩, ⟨4⟩⟩, ⟨⟨"Show"⟩, ⟨4⟩⟩, ⟨⟨"Functor"⟩, ⟨4⟩⟩] ∧
      c.size = 2 ∧ c.hits = 2 ∧
      ∀ t, (c.resolve s (Environment.functorOfPair.lookup (σ := Unit)).recorded
        ⟨⟨"Show"⟩, ⟨4⟩⟩ t).2.2 = t := by
  let t : Session Unit := ⟨(), none, []⟩
  have hbefore := ((Cache.runs_of_reachable Environment.functorOfPair.lookup
    Store.reachable_pairs).resolve ⟨⟨"Functor"⟩, ⟨4⟩⟩ (by decide +kernel) t).resolve
    ⟨⟨"Show"⟩, ⟨4⟩⟩ (by decide +kernel) t
  have hafter := ((hbefore.operation (.declare "Unit" .proper) trivial).resolve
    ⟨⟨"Functor"⟩, ⟨4⟩⟩ (by decide +kernel) t).resolve ⟨⟨"Show"⟩, ⟨4⟩⟩ (by decide +kernel) t
  obtain ⟨_, hasked, _, hsize, hrequests⟩ :=
    cache_is_transparent Environment.functorOfPair.answers hafter
  refine ⟨_, _, hafter, hsize, ?_, hasked _ (by simp)⟩
  rw [hsize] at hrequests
  exact Nat.add_right_cancel hrequests

end FormRecovery
