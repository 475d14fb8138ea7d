import FormRecovery.Proofs.Correspondence
import FormRecovery.Proofs.Serving
import Mathlib.Data.List.Find

/-!
Two stores with the same types, numbered differently or next to other types, give the same
candidates, resolutions and texts. Registering an instance under the images of its types makes the
two environments answer alike.
-/
namespace FormRecovery

section

variable {σ τ ι : Type} {s t : Store} (ρ : s.Renaming t)

theorem Template.rename_injective (hs : s.WellFormed) (ht : t.WellFormed) {u v : Template}
    (hu : u.Over s) (hv : v.Over s) (h : u.rename ρ = v.rename ρ) : u = v := by
  induction u generalizing v with
  | fixed i =>
    cases v with
    | fixed j => rw [ρ.injective hs ht hu hv (fixed.inj h)]
    | hole k => contradiction
    | application g y => contradiction
  | hole k =>
    cases v with
    | fixed j => contradiction
    | hole k' => rw [hole.inj h]
    | application g y => contradiction
  | application f x ihf ihx =>
    cases v with
    | fixed j => contradiction
    | hole k => contradiction
    | application g y =>
      obtain ⟨hf, hx⟩ := application.inj h
      rw [ihf hu.1 hv.1 hf, ihx hu.2 hv.2 hx]

theorem Store.Renaming.list_injective (hs : s.WellFormed) (ht : t.WellFormed) {xs ys : List TypeId}
    (hxs : ∀ x ∈ xs, x ∈ s) (hys : ∀ y ∈ ys, y ∈ s) (h : xs.map ρ = ys.map ρ) : xs = ys := by
  induction xs generalizing ys with
  | nil => exact (List.map_eq_nil_iff.mp h.symm).symm
  | cons x xs ih =>
    cases ys with
    | nil => contradiction
    | cons y ys =>
      rw [List.forall_mem_cons] at hxs hys
      obtain ⟨hx, hrest⟩ := List.cons.inj h
      rw [ρ.injective hs ht hxs.1 hys.1 hx, ih hxs.2 hys.2 hrest]

theorem Form.rename_injective (hs : s.WellFormed) (ht : t.WellFormed) {f g : Form}
    (hf : f.body.Over s) (hg : g.body.Over s) (h : f.rename ρ = g.rename ρ) : f = g := by
  obtain ⟨arity, body⟩ := f
  obtain ⟨arity', body'⟩ := g
  simp only [rename, Form.mk.injEq] at h ⊢
  exact ⟨h.1, Template.rename_injective ρ hs ht hf hg h.2⟩

theorem InstanceHead.rename_injective (hs : s.WellFormed) (ht : t.WellFormed) {a b : InstanceHead}
    (ha : a.Over s) (hb : b.Over s) (h : a.rename ρ = b.rename ρ) : a = b := by
  obtain ⟨capability, form, arguments⟩ := a
  obtain ⟨capability', form', arguments'⟩ := b
  simp only [rename, InstanceHead.mk.injEq] at h ⊢
  obtain ⟨hcapability, hform, harguments⟩ := h
  exact ⟨hcapability, Form.rename_injective ρ hs ht ha.1 hb.1 hform,
    ρ.list_injective hs ht ha.2 hb.2 harguments⟩

/-- The same instances, each under the image of its head. -/
def Environment.rename (env : Environment ι) : Environment ι :=
  ⟨env.entries.map fun (head, value) => (head.rename ρ, value)⟩

theorem Environment.get?_rename (hs : s.WellFormed) (ht : t.WellFormed) {env : Environment ι}
    (henv : ∀ e ∈ env.entries, e.1.Over s) {head : InstanceHead} (hhead : head.Over s) :
    (env.rename ρ).get? (head.rename ρ) = env.get? head := by
  have hfind : (env.rename ρ).entries.find? (·.1 == head.rename ρ) =
      (env.entries.find? (·.1 == head)).map fun (head, value) => (head.rename ρ, value) := by
    rw [rename, List.find?_map]
    congr 1
    apply List.find?_congr
    intro e he
    rw [Bool.eq_iff_iff, Function.comp_apply, beq_iff_eq, beq_iff_eq]
    exact ⟨InstanceHead.rename_injective ρ hs ht (henv e he) hhead,
      congrArg (InstanceHead.rename ρ)⟩
  rw [get?, hfind, Option.map_map]
  rfl

theorem Environment.alike_rename (hs : s.WellFormed) (ht : t.WellFormed) {env : Environment ι}
    (henv : ∀ e ∈ env.entries, e.1.Over s) (Related : σ → τ → Prop) :
    env.lookup.Alike ρ (env.rename ρ).lookup Related := by
  constructor
  · intro head hhead m n _
    exact env.get?_rename ρ hs ht henv hhead
  · intro head _ m n h
    exact h

end

/-- What patterns make of a type, what a search ends with and what is printed depend on the
structure of types only: for the image of a type they are the images, and the texts are the same. -/
theorem resolution_depends_on_structure {s t : Store} (hs : s.Reachable) (ht : t.Reachable)
    (ρ : s.Renaming t) :
    (∀ x ∈ s, ∀ p : Pattern, p.candidate? t (ρ x) = (p.candidate? s x).map (·.rename ρ)) ∧
    (∀ {σ τ ι : Type} (lookup : Lookup σ ι) (lookup' : Lookup τ ι) (Related : σ → τ → Prop),
      lookup.Alike ρ lookup' Related →
      ∀ (k : Catalog) (capability : Capability), ∀ x ∈ s, ∀ (u : Session σ) (u' : Session τ),
        Related u.memory u'.memory →
        (∀ found v, search s lookup ⟨k, capability, x⟩ u = .ok found v →
          ∃ v', search t lookup' ⟨k, capability, ρ x⟩ u' =
              .ok ⟨found.pattern, found.value, found.equality.rename ρ⟩ v' ∧
            Related v.memory v'.memory) ∧
        ∀ e v, search s lookup ⟨k, capability, x⟩ u = .error e v →
          ∃ attempted v', e = ⟨.noViableDecomposition capability x attempted, [k.crumb]⟩ ∧
            search t lookup' ⟨k, capability, ρ x⟩ u' =
              .error ⟨.noViableDecomposition capability (ρ x) attempted, [k.crumb]⟩ v' ∧
            Related v.memory v'.memory) ∧
    (∀ x ∈ s, ∀ width, t.print width (ρ x) = s.print width x) ∧
    ∀ f : Form, f.body.Over s → ∀ width, (f.rename ρ).print t width = f.print s width := by
  refine ⟨?_, ?_, ?_, ?_⟩
  · intro x hx p
    exact p.candidate?_map ρ hs.wellFormed ht.wellFormed hx
  · intro σ τ ι lookup lookup' Related alike k capability x hx u u' hmemory
    obtain ⟨houtcome, hleft⟩ := search_rename hs.wellFormed ht.wellFormed alike
      (r := ⟨k, capability, x⟩) hx hmemory
    constructor
    · intro found v hfrom
      rw [hfrom] at houtcome hleft
      exact ⟨_, Resolving.eq_ok_of_outcome houtcome, hleft⟩
    · intro e v hfrom
      rw [hfrom] at houtcome hleft
      obtain rfl := error_of_search hfrom
      exact ⟨_, _, rfl, Resolving.eq_error_of_outcome houtcome, hleft⟩
  · intro x hx width
    exact Store.print_map ρ hs.wellFormed ht.wellFormed hx width
  · intro f hf width
    exact Form.print_map ρ hs.wellFormed ht.wellFormed hf width

namespace Store

/-- The types of `pairs` next to `Unit`, declared and applied in another order. -/
def renumbered : Store :=
  let names :=
    (Operation.declare "Int" .proper).after <|
    (Operation.declare "String" .proper).after <|
    (Operation.declare "Unit" .proper).after <|
    (Operation.declare "Pair" (.ofArity 2)).after empty
  (Operation.applyAll ⟨0⟩ [⟨3⟩, ⟨2⟩]).after <| (Operation.applyAll ⟨0⟩ [⟨3⟩, ⟨3⟩]).after names

theorem reachable_renumbered : renumbered.Reachable := by
  have hnames := (((reachable_empty.step (.declare "Pair" (.ofArity 2)) trivial).step
    (.declare "Unit" .proper) trivial).step (.declare "String" .proper) trivial).step
    (.declare "Int" .proper) trivial
  exact (hnames.step (.applyAll ⟨0⟩ [⟨3⟩, ⟨3⟩]) (by decide +kernel)).step
    (.applyAll ⟨0⟩ [⟨3⟩, ⟨2⟩]) (by decide +kernel)

def renumber (id : TypeId) : TypeId :=
  ([⟨3⟩, ⟨2⟩, ⟨0⟩, ⟨4⟩, ⟨6⟩, ⟨5⟩] : List TypeId).getD id.index id

theorem renumber_entries : ∀ n < pairs.size,
    renumbered.kind (renumber ⟨n⟩) = pairs.kind ⟨n⟩ ∧
      renumbered.shape? (renumber ⟨n⟩) = (pairs.shape? ⟨n⟩).map (·.rename renumber) := by
  decide +kernel

def renumbering : pairs.Renaming renumbered where
  map := renumber
  kind_map id hid := (renumber_entries id.index hid).1
  shape_map id shape hshape := by
    rw [(renumber_entries id.index (mem_of_shape? hshape)).2, hshape]
    rfl

end Store

/-- With one instance, registered in each store in its numbering, `Pair Int Int` is found at the
same pattern in both. -/
theorem resolution_of_renumbered_pair :
    ∃ v, search Store.renumbered ((Environment.only ⟨⟨"Functor"⟩,
        ⟨1, .application (.fixed ⟨3⟩) (.hole 0)⟩, []⟩ "map").rename Store.renumbering).lookup
        ⟨.single, ⟨"Functor"⟩, Store.renumbering ⟨5⟩⟩ ⟨(), none, []⟩ =
      .ok ⟨.binarySecond, "map", ⟨⟨5⟩, ⟨1, .application (.fixed ⟨4⟩) (.hole 0)⟩, [⟨3⟩]⟩⟩ v := by
  have henv : ∀ e ∈ (Environment.only (⟨⟨"Functor"⟩, ⟨1, .application (.fixed ⟨3⟩) (.hole 0)⟩, []⟩)
      "map").entries, e.1.Over Store.pairs := by
    intro e he
    rw [List.mem_singleton.mp he]
    exact ⟨by decide +kernel, by simp⟩
  have halike := Environment.alike_rename Store.renumbering Store.reachable_pairs.wellFormed
    Store.reachable_renumbered.wellFormed henv (σ := Unit) (τ := Unit) (fun _ _ => True)
  have hhit :
      (survey (Environment.only (⟨⟨"Functor"⟩, ⟨1, .application (.fixed ⟨3⟩) (.hole 0)⟩, []⟩)
        "map").lookup ⟨.single, ⟨"Functor"⟩, ⟨5⟩⟩
        (Request.candidates Store.pairs ⟨.single, ⟨"Functor"⟩, ⟨5⟩⟩) ()).hit =
      some (⟨.binarySecond, ⟨1, .application (.fixed ⟨3⟩) (.hole 0)⟩, [⟨0⟩]⟩, "map") := by
    decide +kernel
  have hsearch := (resolution_depends_on_structure Store.reachable_pairs Store.reachable_renumbered
    Store.renumbering).2.1 _ _ _ halike .single ⟨"Functor"⟩ ⟨5⟩ (by decide +kernel)
    ⟨(), none, []⟩ ⟨(), none, []⟩ trivial
  obtain ⟨v, hv, _⟩ := hsearch.1 _ _ (search_of_hit hhit)
  exact ⟨v, hv⟩

end FormRecovery
