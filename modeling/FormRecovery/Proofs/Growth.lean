import FormRecovery.Store

/-!
How a store grows: only by entries of a new shape, whose sides are stored and of kinds that fit.
Growth appends entries and never changes one, and it keeps a store well formed: a shape has one
id, and both sides of an application are earlier entries.
-/
namespace FormRecovery.Store

/-- The ids that the store gave out. -/
instance : Membership TypeId Store := ⟨fun s id => id.index < s.size⟩

instance (s : Store) (id : TypeId) : Decidable (id ∈ s) :=
  inferInstanceAs (Decidable (id.index < s.size))

/-- The later store is the earlier one with entries appended. -/
instance : LE Store := ⟨fun s t => s.entries.toList <+: t.entries.toList⟩

theorem le_iff (s t : Store) : s ≤ t ↔ s.entries.toList <+: t.entries.toList := Iff.rfl

theorem le_refl (s : Store) : s ≤ s := List.prefix_refl _

theorem le_trans {s t u : Store} (h : s ≤ t) (h' : t ≤ u) : s ≤ u := List.IsPrefix.trans h h'

theorem le_push (s : Store) (e : Entry) : s ≤ s.push e := by
  rw [le_iff]
  exact ⟨[e], by simp [push]⟩

theorem get?_of_le {s t : Store} (h : s ≤ t) {id : TypeId} (hi : id ∈ s) :
    t.get? id = s.get? id := by
  obtain ⟨more, hm⟩ := h
  have hl : id.index < s.entries.toList.length := hi
  unfold get?
  rw [← Array.getElem?_toList, ← Array.getElem?_toList, ← hm, List.getElem?_append_left hl]

theorem shape?_of_le {s t : Store} (h : s ≤ t) {id : TypeId} (hi : id ∈ s) :
    t.shape? id = s.shape? id := by
  rw [shape?, get?_of_le h hi, shape?]

theorem kind_of_le {s t : Store} (h : s ≤ t) {id : TypeId} (hi : id ∈ s) :
    t.kind id = s.kind id := by
  rw [kind, kind?, get?_of_le h hi, kind, kind?]

theorem mem_of_le {s t : Store} (h : s ≤ t) {id : TypeId} (hi : id ∈ s) : id ∈ t :=
  Nat.lt_of_lt_of_le hi h.length_le

theorem mem_of_shape? {s : Store} {id : TypeId} {shape : Shape} (h : s.shape? id = some shape) :
    id ∈ s := by
  obtain ⟨e, he, _⟩ := Option.map_eq_some_iff.mp h
  exact (Array.getElem?_eq_some_iff.mp he).choose

theorem split?_of_le {s t : Store} (h : s ≤ t) {id : TypeId} {sides : TypeId × TypeId}
    (hsplit : s.split? id = some sides) : t.split? id = some sides := by
  obtain ⟨f, x⟩ := sides
  rw [split?_eq_some_iff] at hsplit ⊢
  rw [shape?_of_le h (mem_of_shape? hsplit), hsplit]

theorem exists_shape? {s : Store} {id : TypeId} (h : id ∈ s) :
    ∃ shape, s.shape? id = some shape := by
  have he : s.get? id = some s.entries[id.index] := Array.getElem?_eq_getElem h
  exact ⟨s.entries[id.index].shape, by rw [shape?, he, Option.map_some]⟩

theorem kind?_eq_some_kind {s : Store} {id : TypeId} (h : id ∈ s) :
    s.kind? id = some (s.kind id) := by
  have he : s.get? id = some s.entries[id.index] := Array.getElem?_eq_getElem h
  rw [kind, kind?, he, Option.map_some, Option.getD_some]

theorem shape?_push (s : Store) (e : Entry) (id : TypeId) :
    (s.push e).shape? id = if id = s.next then some e.shape else s.shape? id := by
  simp only [shape?, get?_push]
  split <;> rfl

theorem kind_push (s : Store) (e : Entry) (id : TypeId) :
    (s.push e).kind id = if id = s.next then e.kind else s.kind id := by
  simp only [kind, kind?, get?_push]
  split <;> rfl

theorem next_not_mem (s : Store) : s.next ∉ s := Nat.lt_irrefl s.size

theorem shape?_next (s : Store) : s.shape? s.next = none := by
  cases h : s.shape? s.next with
  | none => rfl
  | some shape => exact absurd (mem_of_shape? h) (next_not_mem s)

theorem ne_next {s : Store} {id : TypeId} (h : id ∈ s) : id ≠ s.next := by
  intro he
  exact next_not_mem s (he ▸ h)

/-- What a look-up finds has the shape. -/
theorem shape?_of_lookup {s : Store} {shape : Shape} {id : TypeId} (h : s.lookup shape = some id) :
    s.shape? id = some shape := eq_of_beq (Table.accepted_of_find? h)

/-- What a new entry must be. -/
structure Admits (s : Store) (e : Entry) : Prop where
  fresh : s.lookup e.shape = none
  sides : ∀ f x, e.shape = .application f x → f ∈ s ∧ x ∈ s
  kinds : ∀ f x, e.shape = .application f x → s.kind f = .arrow (s.kind x) e.kind

inductive Grows : Store → Store → Prop where
  | refl (s : Store) : Grows s s
  | push {s t : Store} {e : Entry} (earlier : Grows s t) (admitted : t.Admits e) :
      Grows s (t.push e)

theorem Grows.trans {s t u : Store} (h : s.Grows t) (h' : t.Grows u) : s.Grows u := by
  induction h' with
  | refl => exact h
  | push _ admitted ih => exact .push ih admitted

theorem Grows.le {s t : Store} (h : s.Grows t) : s ≤ t := by
  induction h with
  | refl => exact le_refl s
  | push _ _ ih => exact le_trans ih (le_push _ _)

/-- The table has the id of each entry under the hash of its shape, and no other ids. -/
def Filed (s : Store) : Prop :=
  ∀ k id, (k, id) ∈ s.table.filed ↔ ∃ shape, s.shape? id = some shape ∧ s.hash shape = k

structure WellFormed (s : Store) : Prop where
  unique : ∀ i j shape, s.shape? i = some shape → s.shape? j = some shape → i = j
  earlier : ∀ id f x, s.shape? id = some (.application f x) →
    f.index < id.index ∧ x.index < id.index
  kinds : ∀ id f x, s.shape? id = some (.application f x) →
    s.kind f = .arrow (s.kind x) (s.kind id)
  filed : s.Filed
  filed_once : s.table.filed.Nodup

theorem wellFormed_empty (hash : Shape → UInt64) : (emptyWith hash).WellFormed := by
  constructor <;> simp [Filed, shape?, get?, emptyWith]

namespace Filed

variable {s : Store}

theorem next_not_filed (hs : s.Filed) (k : UInt64) : (k, s.next) ∉ s.table.filed := by
  simp [hs k, shape?_next]

/-- The table and the entries stay in step when both are written. -/
theorem push (hs : s.Filed) (e : Entry) : (s.push e).Filed := by
  intro k id
  rw [filed_push, List.mem_cons, hs, hash_push]
  by_cases hid : id = s.next
  · subst hid
    simp [shape?_push, shape?_next, eq_comm]
  · simp [shape?_push, hid]

end Filed

/-- A shape that a look-up does not find is not stored. -/
theorem WellFormed.lookup_eq_none_iff {s : Store} (hs : s.WellFormed) (shape : Shape) :
    s.lookup shape = none ↔ ∀ id, s.shape? id ≠ some shape := by
  rw [lookup, Table.find?_eq_none_iff]
  constructor
  · intro h id hid
    simpa [hid] using h id ((hs.filed _ id).mpr ⟨shape, hid, rfl⟩)
  · intro h id _
    simpa using h id

theorem wellFormed_push {s : Store} (hs : s.WellFormed) {e : Entry} (he : s.Admits e) :
    (s.push e).WellFormed := by
  have hfresh := (hs.lookup_eq_none_iff e.shape).mp he.fresh
  constructor
  case unique =>
    intro i j shape hi hj
    rw [shape?_push] at hi hj
    split at hi <;> split at hj
    · simp_all
    · exact absurd (hj.trans hi.symm) (hfresh j)
    · exact absurd (hi.trans hj.symm) (hfresh i)
    · exact hs.unique i j shape hi hj
  case earlier =>
    intro id f x h
    rw [shape?_push] at h
    split at h
    · next hn =>
      rw [hn]
      exact he.sides f x (Option.some.inj h)
    · exact hs.earlier id f x h
  case filed => exact hs.filed.push e
  case filed_once => exact List.nodup_cons.mpr ⟨hs.filed.next_not_filed _, hs.filed_once⟩
  case kinds =>
    intro id f x h
    rw [shape?_push] at h
    split at h
    · next hn =>
      have hk := Option.some.inj h
      have hm := he.sides f x hk
      rw [kind_push, kind_push, kind_push, if_neg (ne_next hm.1), if_neg (ne_next hm.2), if_pos hn]
      exact he.kinds f x hk
    · next hn =>
      have hlt := hs.earlier id f x h
      have hid : id.index < s.size := mem_of_shape? h
      have hf : f ∈ s := Nat.lt_trans hlt.1 hid
      have hx : x ∈ s := Nat.lt_trans hlt.2 hid
      rw [kind_push, kind_push, kind_push, if_neg (ne_next hf), if_neg (ne_next hx), if_neg hn]
      exact hs.kinds id f x h

theorem Grows.wellFormed {s t : Store} (h : s.Grows t) (hs : s.WellFormed) : t.WellFormed := by
  induction h with
  | refl => exact hs
  | push _ admitted ih => exact wellFormed_push ih admitted

namespace WellFormed

variable {s : Store}

theorem sides_mem (hs : s.WellFormed) {id f x : TypeId}
    (h : s.shape? id = some (.application f x)) : f ∈ s ∧ x ∈ s := by
  have hlt := hs.earlier id f x h
  have hid : id.index < s.size := mem_of_shape? h
  exact ⟨Nat.lt_trans hlt.1 hid, Nat.lt_trans hlt.2 hid⟩

theorem split_mem (hs : s.WellFormed) {id f x : TypeId} (h : s.split? id = some (f, x)) :
    f ∈ s ∧ x ∈ s :=
  hs.sides_mem ((split?_eq_some_iff ..).mp h)

theorem lookup_eq_some_iff (hs : s.WellFormed) (shape : Shape) (id : TypeId) :
    s.lookup shape = some id ↔ s.shape? id = some shape := by
  constructor
  · exact shape?_of_lookup
  · intro h
    cases hl : s.lookup shape with
    | none => exact absurd h ((hs.lookup_eq_none_iff shape).mp hl id)
    | some j => rw [hs.unique j id shape (shape?_of_lookup hl) h]

/-- In a well-formed store an application is determined by its sides. -/
theorem split?_injective (hs : s.WellFormed) {i j f x : TypeId} (hi : s.split? i = some (f, x))
    (hj : s.split? j = some (f, x)) : i = j := by
  rw [split?_eq_some_iff] at hi hj
  exact hs.unique i j _ hi hj

end WellFormed

end FormRecovery.Store
