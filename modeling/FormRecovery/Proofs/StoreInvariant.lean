import FormRecovery.Prelude
import FormRecovery.Proofs.Declarations
import FormRecovery.Proofs.Expansion

/-!
What holds of a store at every moment of a run, whatever failed before and whatever hash the store
files its types by. A type is stored once, after its two sides and with the kind that they give it;
a constructor has the kind of the first declaration of its name; and the table has every entry, so
that a look-up, which reads nothing but the table, finds what is stored.
-/
namespace FormRecovery

/-- Every constructor is found with its kind under its name. -/
theorem Store.WellFormed.declared?_eq_some_iff {s : Store} (hs : s.WellFormed) (name : String)
    (kind : Kind) : s.declared? name = some kind ↔
      ∃ id, s.shape? id = some (.constructor name) ∧ s.kind id = kind := by
  rw [declared?, constructor?, Option.map_eq_some_iff]
  simp only [hs.lookup_eq_some_iff]

namespace Operation

/-- The declarations, as a run. -/
def declarations (ds : List (String × Kind)) : List Operation :=
  ds.map fun (name, kind) => .declare name kind

theorem allIssued_declarations (ds : List (String × Kind)) (s : Store) :
    AllIssued (declarations ds) s := by
  induction ds generalizing s with
  | nil => trivial
  | cons d ds ih => exact ⟨trivial, ih _⟩

/-- Declarations of different names that are new do not fail. -/
theorem forM_declare {ds : List (String × Kind)} {s : Store}
    (hnew : ∀ d ∈ ds, s.declared? d.1 = none) (hnames : (ds.map (·.1)).Nodup) :
    (ds.forM fun (name, kind) => do
      let _ ← Interning.declare name kind : Interning KindError Unit) s =
        .ok () (afterAll (declarations ds) s) := by
  induction ds generalizing s with
  | nil => rfl
  | cons d ds ih =>
    obtain ⟨name, kind⟩ := d
    rw [List.forall_mem_cons] at hnew
    rw [List.map_cons, List.nodup_cons] at hnames
    have hlookup : s.constructor? name = none := Option.map_eq_none_iff.mp hnew.1
    have hdeclare : Interning.declare name kind s =
        .ok s.next (s.push ⟨.constructor name, kind⟩) := by
      simp [Interning.declare, hlookup, Interning.insert]
    have hafter : (declare name kind).after s = s.push ⟨.constructor name, kind⟩ := by
      rw [after_eq, run, Interning.after_map, Interning.after_adaptExcept,
        Interning.after, hdeclare]
    have hrest : ∀ d ∈ ds, (s.push ⟨.constructor name, kind⟩).declared? d.1 = none := by
      intro d hd
      have hne : name ≠ d.1 := fun h => hnames.1 (List.mem_map.mpr ⟨d, hd, h.symm⟩)
      rw [Store.declared?_push (e := ⟨.constructor name, kind⟩) hlookup, hnew.2 d hd]
      simp [hne]
    have hih := ih hrest hnames.2
    rw [declarations, List.map_cons, afterAll, List.foldl_cons, hafter]
    simp only [List.forM_eq_forM, List.forM_cons, bind, EStateM.bind, hdeclare, pure,
      EStateM.pure] at hih ⊢
    exact hih

end Operation

namespace Prelude

def history : List Operation := Operation.declarations declarations

theorem storeWith_eq (hash : Shape → UInt64) :
    storeWith hash = Operation.afterAll history (.emptyWith hash) := by
  have hnames : (declarations.map (·.1)).Nodup := by decide +kernel
  rw [storeWith, declareAll, Operation.forM_declare (fun _ _ => rfl) hnames]
  rfl

end Prelude

/-- Where a run may start, with the operations that led there. -/
inductive Store.Starts : Store → List Operation → Prop where
  | empty (hash : Shape → UInt64) : Starts (emptyWith hash) []
  | prelude (hash : Shape → UInt64) : Starts (Prelude.storeWith hash) Prelude.history

namespace Store.Starts

variable {s : Store} {before : List Operation}

theorem exists_run (h : s.Starts before) :
    ∃ hash, Operation.AllIssued before (emptyWith hash) ∧
      s = Operation.afterAll before (emptyWith hash) := by
  cases h with
  | empty hash => exact ⟨hash, trivial, rfl⟩
  | prelude hash => exact ⟨hash, Operation.allIssued_declarations .., Prelude.storeWith_eq hash⟩

theorem reachable (h : s.Starts before) : s.Reachable := by
  obtain ⟨hash, hissued, rfl⟩ := h.exists_run
  exact (Reachable.empty hash).trans (Operation.reaches_afterAll hissued)

end Store.Starts

/-- What a store is after these operations. -/
structure Store.Invariant (s : Store) (ops : List Operation) : Prop where
  equal_iff : ∀ i ∈ s, ∀ j ∈ s, i = j ↔ s.tree i = s.tree j
  stored_once : ∀ i j shape, s.shape? i = some shape → s.shape? j = some shape → i = j
  sides : ∀ id f x, s.shape? id = some (.application f x) →
    f.index < id.index ∧ x.index < id.index ∧ s.kind f = .arrow (s.kind x) (s.kind id)
  first_declaration : ∀ name kind,
    (∃ id, s.shape? id = some (.constructor name) ∧ s.kind id = kind) ↔
      ops.findSome? (·.declares? name) = some kind
  /-- The table and the entries are in step. -/
  filed_iff : ∀ k id, (k, id) ∈ s.table.filed ↔ ∃ shape, s.shape? id = some shape ∧ s.hash shape = k
  filed_once : s.table.filed.Nodup
  found_iff : ∀ shape id, s.lookup shape = some id ↔ s.shape? id = some shape
  missing_iff : ∀ shape, s.lookup shape = none ↔ ∀ id, s.shape? id ≠ some shape

/-- Whatever succeeds or fails in a run, the store keeps its invariant. -/
theorem invariant_of_run {start : Store} {before ops : List Operation}
    (hstart : start.Starts before) (h : Operation.AllIssued ops start) :
    (Operation.afterAll ops start).Invariant (before ++ ops) := by
  have hreachable : (Operation.afterAll ops start).Reachable :=
    hstart.reachable.trans (Operation.reaches_afterAll h)
  have hs := hreachable.wellFormed
  have hdeclared : ∀ name, (Operation.afterAll ops start).declared? name =
      (before ++ ops).findSome? (·.declares? name) := by
    intro name
    obtain ⟨hash, _, rfl⟩ := hstart.exists_run
    rw [← Operation.afterAll_append, Operation.declared?_afterAll, Store.declared?_emptyWith,
      Option.none_or]
  constructor
  case equal_iff =>
    intro i hi j hj
    exact ⟨congrArg _, Store.tree_injective hs hi hj⟩
  case stored_once => exact hs.unique
  case sides =>
    intro id f x hid
    have hlt := hs.earlier id f x hid
    exact ⟨hlt.1, hlt.2, hs.kinds id f x hid⟩
  case first_declaration =>
    intro name kind
    rw [← hdeclared, hs.declared?_eq_some_iff]
  case filed_iff => exact hs.filed
  case filed_once => exact hs.filed_once
  case found_iff => exact hs.lookup_eq_some_iff
  case missing_iff => exact hs.lookup_eq_none_iff

/-- A hash with which many types collide. -/
def Shape.nameLength : Shape → UInt64
  | constructor name => name.length.toUInt64
  | application _ _ => 0

/-- A run from the prelude: a form that fails in its second half, a declaration of `Int` with
another kind, and an instance of `\a -> Pair Int a`. -/
def Prelude.interrupted : List Operation :=
  [.form 1 (.application (.application (.fixed ⟨6⟩) (.fixed ⟨0⟩))
      (.application (.fixed ⟨0⟩) (.fixed ⟨0⟩))),
   .declare "Int" (.ofArity 1),
   .instantiate (.ofConstructor ⟨16⟩) [⟨1⟩]]

/-- The half-made form has left `Pair Int`, `Int` is still proper, and `Pair Int String` is found,
although it is filed together with `Pair Int`. -/
theorem invariant_after_interrupted :
    (Prelude.storeWith Shape.nameLength).Starts Prelude.history ∧
    Operation.AllIssued Prelude.interrupted (Prelude.storeWith Shape.nameLength) ∧
    ∃ s, s = Operation.afterAll Prelude.interrupted (Prelude.storeWith Shape.nameLength) ∧
      (0, ⟨16⟩) ∈ s.table.filed ∧ (0, ⟨17⟩) ∈ s.table.filed ∧
      s.lookup (.application ⟨6⟩ ⟨0⟩) = some ⟨16⟩ ∧ s.lookup (.application ⟨16⟩ ⟨1⟩) = some ⟨17⟩ ∧
      ∃ id, s.shape? id = some (.constructor "Int") ∧ s.kind id = .proper := by
  have hissued : Operation.AllIssued Prelude.interrupted (Prelude.storeWith Shape.nameLength) := by
    decide +kernel
  have hinvariant := invariant_of_run (.prelude Shape.nameLength) hissued
  refine ⟨.prelude _, hissued, _, rfl, ?_, ?_, ?_, ?_, ?_⟩
  · exact (hinvariant.filed_iff _ _).mpr ⟨.application ⟨6⟩ ⟨0⟩, by decide +kernel, rfl⟩
  · exact (hinvariant.filed_iff _ _).mpr ⟨.application ⟨16⟩ ⟨1⟩, by decide +kernel, rfl⟩
  · exact (hinvariant.found_iff _ _).mpr (by decide +kernel)
  · exact (hinvariant.found_iff _ _).mpr (by decide +kernel)
  · exact (hinvariant.first_declaration "Int" .proper).mpr (by decide +kernel)

end FormRecovery
