import FormRecovery.Printing
import FormRecovery.Proofs.Interning

/-!
Types and templates written out in full. In a well-formed store a stored type is determined by what
it stands for, and so is a canonical template over the store. What they stand for does not change
when the store grows.
-/
namespace FormRecovery

/-- A template written out in full, down to names and holes. -/
inductive Expansion where
  | named (name : String)
  | hole (h : Hole)
  | applied (function argument : Expansion)
  deriving DecidableEq

def Tree.expansion : Tree → Expansion
  | named name => .named name
  | applied function argument => .applied function.expansion argument.expansion

def Template.expand (s : Store) : Template → Expansion
  | fixed id => (s.tree id).expansion
  | hole h => .hole h
  | application function argument => .applied (function.expand s) (argument.expand s)

namespace Store

variable {s t : Store} {id i j f x : TypeId}

theorem tree_of_constructor {name : String} (h : s.shape? id = some (.constructor name)) :
    s.tree id = .named name := by
  rw [tree, h]

theorem tree_of_application (hs : s.WellFormed) (h : s.shape? id = some (.application f x)) :
    s.tree id = .applied (s.tree f) (s.tree x) := by
  rw [tree, h]
  exact if_pos (hs.earlier id f x h)

/-- A stored type is determined by its tree. -/
theorem tree_injective (hs : s.WellFormed) (hi : i ∈ s) (hj : j ∈ s) (h : s.tree i = s.tree j) :
    i = j := by
  induction hn : i.index using Nat.strongRecOn generalizing i j with
  | ind n ih =>
    obtain ⟨si, hsi⟩ := exists_shape? hi
    obtain ⟨sj, hsj⟩ := exists_shape? hj
    cases si with
    | constructor name =>
      cases sj with
      | constructor name' =>
        rw [tree_of_constructor hsi, tree_of_constructor hsj] at h
        obtain rfl := Tree.named.inj h
        exact hs.unique i j _ hsi hsj
      | application f x =>
        rw [tree_of_constructor hsi, tree_of_application hs hsj] at h
        contradiction
    | application f x =>
      cases sj with
      | constructor name =>
        rw [tree_of_application hs hsi, tree_of_constructor hsj] at h
        contradiction
      | application g y =>
        rw [tree_of_application hs hsi, tree_of_application hs hsj] at h
        obtain ⟨hf, hx⟩ := Tree.applied.inj h
        have hlt := hs.earlier i f x hsi
        have hm := hs.sides_mem hsi
        have hm' := hs.sides_mem hsj
        obtain rfl := ih f.index (hn ▸ hlt.1) hm.1 hm'.1 hf rfl
        obtain rfl := ih x.index (hn ▸ hlt.2) hm.2 hm'.2 hx rfl
        exact hs.unique i j _ hsi hsj

/-- A stored type keeps its tree. -/
theorem tree_of_le (hs : s.WellFormed) (ht : t.WellFormed) (hle : s ≤ t) (h : id ∈ s) :
    t.tree id = s.tree id := by
  induction hn : id.index using Nat.strongRecOn generalizing id with
  | ind n ih =>
    obtain ⟨shape, hshape⟩ := exists_shape? h
    have hshape' := (shape?_of_le hle h).trans hshape
    cases shape with
    | constructor name => rw [tree_of_constructor hshape, tree_of_constructor hshape']
    | application f x =>
      have hlt := hs.earlier id f x hshape
      have hm := hs.sides_mem hshape
      rw [tree_of_application hs hshape, tree_of_application ht hshape',
        ih f.index (hn ▸ hlt.1) hm.1 rfl, ih x.index (hn ▸ hlt.2) hm.2 rfl]

end Store

theorem Tree.expansion_injective {a b : Tree} (h : a.expansion = b.expansion) : a = b := by
  induction a generalizing b with
  | named name =>
    cases b with
    | named name' => rw [Expansion.named.inj h]
    | applied g y => contradiction
  | applied f x ihf ihx =>
    cases b with
    | named name => contradiction
    | applied g y =>
      obtain ⟨hf, hx⟩ := Expansion.applied.inj h
      rw [ihf hf, ihx hx]

namespace Template

variable {s t : Store}

/-- What is written out without a hole has none. -/
theorem isClosed_of_expand {u : Template} {a : Tree} (h : u.expand s = a.expansion) :
    u.isClosed = true := by
  induction u generalizing a with
  | fixed id => rfl
  | hole k => cases a <;> contradiction
  | application f x ihf ihx =>
    cases a with
    | named name => contradiction
    | applied a b =>
      obtain ⟨hf, hx⟩ := Expansion.applied.inj h
      rw [isClosed_application, ihf hf, ihx hx]
      rfl

/-- A canonical template over a store is determined by what it stands for. -/
theorem expand_injective (hs : s.WellFormed) {u v : Template} (hu : u.Canonical) (hv : v.Canonical)
    (huo : u.Over s) (hvo : v.Over s) (h : u.expand s = v.expand s) : u = v := by
  induction u generalizing v with
  | fixed i =>
    obtain ⟨j, rfl⟩ := canonical_closed hv (isClosed_of_expand h.symm)
    rw [Store.tree_injective hs huo hvo (Tree.expansion_injective h)]
  | hole k =>
    cases v with
    | fixed j => cases htree : s.tree j <;> simp [expand, htree, Tree.expansion] at h
    | hole k' => rw [Expansion.hole.inj h]
    | application g y => contradiction
  | application f x ihf ihx =>
    cases v with
    | fixed j =>
      obtain ⟨i, hi⟩ := canonical_closed hu (isClosed_of_expand h)
      contradiction
    | hole k' => contradiction
    | application g y =>
      obtain ⟨hf, hx⟩ := Expansion.applied.inj h
      rw [ihf hu.1 hv.1 huo.1 hvo.1 hf, ihx hu.2.1 hv.2.1 huo.2 hvo.2 hx]

theorem expand_of_le (hs : s.WellFormed) (ht : t.WellFormed) (hle : s ≤ t) {u : Template}
    (hu : u.Over s) : u.expand t = u.expand s := by
  induction u with
  | fixed id => rw [expand, expand, Store.tree_of_le hs ht hle hu]
  | hole k => rfl
  | application f x ihf ihx => rw [expand, expand, ihf hu.1, ihx hu.2]

end Template

end FormRecovery
