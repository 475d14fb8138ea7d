import FormRecovery.Proofs.Declarations

/-!
The store is append-only and its answers are permanent. Whatever an operation answers, success or
failure, it answers again in every store that a run reaches afterwards, and then stores nothing:
what it stored is found, and what it was refused for is a matter of kinds, which do not change.
-/
namespace FormRecovery

namespace Interning

variable {ε δ α β : Type} {s t : Store}

/-- What the step does on this store is settled: it appends, and in every later store it has the
same answer and appends nothing. -/
def Settles (x : Interning ε α) (s : Store) : Prop :=
  match x s with
  | .ok a t => s ≤ t ∧ ∀ u, u.WellFormed → t ≤ u → x u = .ok a u
  | .error e t => s ≤ t ∧ ∀ u, u.WellFormed → t ≤ u → x u = .error e u

theorem settles_of_ok {x : Interning ε α} {a : α} (h : x s = .ok a t) (happends : s ≤ t)
    (hagain : ∀ u, u.WellFormed → t ≤ u → x u = .ok a u) : Settles x s := by
  unfold Settles
  rw [h]
  exact ⟨happends, hagain⟩

theorem settles_of_error {x : Interning ε α} {e : ε} (h : x s = .error e t) (happends : s ≤ t)
    (hagain : ∀ u, u.WellFormed → t ≤ u → x u = .error e u) : Settles x s := by
  unfold Settles
  rw [h]
  exact ⟨happends, hagain⟩

theorem Settles.of_ok {x : Interning ε α} (hx : Settles x s) {a : α} (h : x s = .ok a t) :
    s ≤ t ∧ ∀ u, u.WellFormed → t ≤ u → x u = .ok a u := by
  unfold Settles at hx
  rwa [h] at hx

theorem Settles.of_error {x : Interning ε α} (hx : Settles x s) {e : ε} (h : x s = .error e t) :
    s ≤ t ∧ ∀ u, u.WellFormed → t ≤ u → x u = .error e u := by
  unfold Settles at hx
  rwa [h] at hx

theorem settles_pure (a : α) : Settles (pure a : Interning ε α) s :=
  settles_of_ok rfl (Store.le_refl s) fun _ _ _ => rfl

theorem settles_throw (e : ε) : Settles (throw e : Interning ε α) s :=
  settles_of_error rfl (Store.le_refl s) fun _ _ _ => rfl

/-- Two settled steps are settled in sequence: the second appends to what the first left, so that
the first is run again in a later store too. -/
theorem Settles.bind {x : Interning ε α} {f : α → Interning ε β} {promise : Store → α → Prop}
    (hx : Settles x s) (hk : Keeps x s promise)
    (hf : ∀ a t, s.Grows t → promise t a → Settles (f a) t) : Settles (x >>= f) s := by
  cases hr : x s with
  | error e t =>
    obtain ⟨happends, hagain⟩ := hx.of_error hr
    refine settles_of_error (bind_eq_error_iff.mpr (.inl hr)) happends ?_
    intro u hu hle
    exact bind_eq_error_iff.mpr (.inl (hagain u hu hle))
  | ok a t =>
    obtain ⟨happends, hagain⟩ := hx.of_ok hr
    obtain ⟨hgrows, ha⟩ := hk.of_ok hr
    have hfa := hf a t hgrows ha
    cases hb : f a t with
    | error e v =>
      obtain ⟨happends', hagain'⟩ := hfa.of_error hb
      refine settles_of_error (bind_eq_error_iff.mpr (.inr ⟨a, t, hr, hb⟩))
        (Store.le_trans happends happends') ?_
      intro u hu hle
      have hfirst := hagain u hu (Store.le_trans happends' hle)
      exact bind_eq_error_iff.mpr (.inr ⟨a, u, hfirst, hagain' u hu hle⟩)
    | ok b v =>
      obtain ⟨happends', hagain'⟩ := hfa.of_ok hb
      refine settles_of_ok (bind_eq_ok_iff.mpr ⟨a, t, hr, hb⟩)
        (Store.le_trans happends happends') ?_
      intro u hu hle
      have hfirst := hagain u hu (Store.le_trans happends' hle)
      exact bind_eq_ok_iff.mpr ⟨a, u, hfirst, hagain' u hu hle⟩

theorem Settles.map {x : Interning ε α} (hx : Settles x s) (f : α → β) :
    Settles (EStateM.map f x) s := by
  cases hr : x s with
  | error e t =>
    obtain ⟨happends, hagain⟩ := hx.of_error hr
    exact settles_of_error (map_eq_error_iff.mpr hr) happends fun u hu hle =>
      map_eq_error_iff.mpr (hagain u hu hle)
  | ok a t =>
    obtain ⟨happends, hagain⟩ := hx.of_ok hr
    exact settles_of_ok (map_eq_ok_iff.mpr ⟨a, hr, rfl⟩) happends fun u hu hle =>
      map_eq_ok_iff.mpr ⟨a, hagain u hu hle, rfl⟩

theorem Settles.adaptExcept {x : Interning ε α} (hx : Settles x s) (f : ε → δ) :
    Settles (x.adaptExcept f) s := by
  cases hr : x s with
  | error e t =>
    obtain ⟨happends, hagain⟩ := hx.of_error hr
    exact settles_of_error (adaptExcept_eq_error_iff.mpr ⟨e, hr, rfl⟩) happends fun u hu hle =>
      adaptExcept_eq_error_iff.mpr ⟨e, hagain u hu hle, rfl⟩
  | ok a t =>
    obtain ⟨happends, hagain⟩ := hx.of_ok hr
    exact settles_of_ok (adaptExcept_eq_ok_iff.mpr hr) happends fun u hu hle =>
      adaptExcept_eq_ok_iff.mpr (hagain u hu hle)

/-- A stored shape is found in every later store. -/
theorem lookup_later (ht : t.WellFormed) (hle : s ≤ t) {shape : Shape} {id : TypeId}
    (h : s.shape? id = some shape) : t.lookup shape = some id := by
  rw [ht.lookup_eq_some_iff, Store.shape?_of_le hle (Store.mem_of_shape? h), h]

/-- So is a shape that was appended, and with its kind. -/
theorem lookup_appended (ht : t.WellFormed) {e : Entry} (hle : s.push e ≤ t) :
    t.lookup e.shape = some s.next ∧ t.kind s.next = e.kind := by
  have hshape : (s.push e).shape? s.next = some e.shape := by rw [Store.shape?_push, if_pos rfl]
  refine ⟨lookup_later ht hle hshape, ?_⟩
  rw [Store.kind_of_le hle (Store.mem_of_shape? hshape), Store.kind_push, if_pos rfl]

/-- An application whose kinds do not fit is never stored. -/
theorem lookup_unfit (ht : t.WellFormed) (hle : s ≤ t) {f x : TypeId} (hf : f ∈ s) (hx : x ∈ s)
    (hkind : ∀ result, s.kind f ≠ .arrow (s.kind x) result) :
    t.lookup (.application f x) = none := by
  rw [ht.lookup_eq_none_iff]
  intro id hid
  have hfits := ht.kinds id f x hid
  rw [Store.kind_of_le hle hf, Store.kind_of_le hle hx] at hfits
  exact hkind _ hfits

theorem settles_declare (name : String) (kind : Kind) : Settles (declare name kind) s := by
  cases hl : s.constructor? name with
  | some id =>
    have hshape := Store.shape?_of_lookup hl
    have hfound :
        ∀ u, u.WellFormed → s ≤ u → u.constructor? name = some id ∧ u.kind id = s.kind id :=
      fun u hu hle =>
        ⟨lookup_later hu hle hshape, Store.kind_of_le hle (Store.mem_of_shape? hshape)⟩
    by_cases hk : s.kind id = kind
    · refine settles_of_ok (a := id) (t := s) (by simp [declare, hl, hk]) (Store.le_refl s) ?_
      intro u hu hle
      simp [declare, hfound u hu hle, hk]
    · refine settles_of_error (e := .conflictingDeclaration name (s.kind id) kind) (t := s)
        (by simp [declare, hl, hk]) (Store.le_refl s) ?_
      intro u hu hle
      simp [declare, hfound u hu hle, hk]
  | none =>
    refine settles_of_ok (a := s.next) (t := s.push ⟨.constructor name, kind⟩)
      (by simp [declare, hl, insert]) (Store.le_push s _) ?_
    intro u hu hle
    obtain ⟨hfound, hkind⟩ := lookup_appended hu hle
    have hfound : u.constructor? name = some s.next := hfound
    simp [declare, hfound, hkind]

theorem settles_apply {f x : TypeId} (hf : f ∈ s) (hx : x ∈ s) : Settles (apply f x) s := by
  cases hl : s.lookup (.application f x) with
  | some id =>
    have hshape := Store.shape?_of_lookup hl
    refine settles_of_ok (a := id) (t := s) (by simp [apply, hl]) (Store.le_refl s) ?_
    intro u hu hle
    simp [apply, lookup_later hu hle hshape]
  | none =>
    cases hk : s.kind f with
    | proper =>
      refine settles_of_error (e := .notAFunction f .proper) (t := s) (by simp [apply, hl, hk])
        (Store.le_refl s) ?_
      intro u hu hle
      have hnone := lookup_unfit hu hle hf hx (by simp [hk])
      simp [apply, hnone, Store.kind_of_le hle hf, hk]
    | arrow parameter result =>
      by_cases hp : parameter = s.kind x
      · refine settles_of_ok (a := s.next) (t := s.push ⟨.application f x, result⟩)
          (by simp [apply, hl, hk, hp, insert]) (Store.le_push s _) ?_
        intro u hu hle
        simp [apply, (lookup_appended hu hle).1]
      · refine settles_of_error (e := .argumentMismatch f x parameter (s.kind x)) (t := s)
          (by simp [apply, hl, hk, hp]) (Store.le_refl s) ?_
        intro u hu hle
        have hnone := lookup_unfit hu hle hf hx (by simp [hk, hp])
        simp [apply, hnone, Store.kind_of_le hle hf, Store.kind_of_le hle hx, hk, hp]

/-- A settled step after settled steps: the arguments before a failure are applied again alike. -/
theorem settles_applyAll {f : TypeId} {xs : List TypeId} (hf : f ∈ s) (hxs : ∀ x ∈ xs, x ∈ s) :
    Settles (applyAll f xs) s := by
  induction xs generalizing s f with
  | nil => exact settles_pure f
  | cons x xs ih =>
    rw [List.forall_mem_cons] at hxs
    rw [applyAll_cons]
    refine (settles_apply hf hxs.1).bind (keeps_apply hf hxs.1) ?_
    intro g t hg hshape
    exact ih (Store.mem_of_shape? hshape) fun y hy => Store.mem_of_le hg.le (hxs.2 y hy)

/-- A refused application stores nothing. -/
theorem apply_error {f x : TypeId} {e : KindError} (h : apply f x s = .error e t) : t = s := by
  unfold apply at h
  split at h
  · contradiction
  · split at h
    · exact (EStateM.Result.error.inj h).2.symm
    · split at h
      · contradiction
      · exact (EStateM.Result.error.inj h).2.symm

/-- A refused declaration stores nothing. -/
theorem declare_error {name : String} {kind : Kind} {e : KindError}
    (h : declare name kind s = .error e t) : t = s := by
  unfold declare at h
  split at h
  · split at h
    · contradiction
    · exact (EStateM.Result.error.inj h).2.symm
  · contradiction

/-- Where applying one by one fails, the arguments before have been applied and the next one is
refused. -/
theorem applyAll_error {f : TypeId} {xs : List TypeId} {e : KindError}
    (h : applyAll f xs s = .error e t) :
    ∃ before x rest g, xs = before ++ x :: rest ∧ applyAll f before s = .ok g t ∧
      apply g x t = .error e t := by
  induction xs generalizing s f with
  | nil => contradiction
  | cons x xs ih =>
    rw [applyAll_cons] at h
    rcases bind_eq_error_iff.mp h with hr | ⟨g, u, hr, hrest⟩
    · obtain rfl := apply_error hr
      exact ⟨[], x, xs, f, rfl, rfl, hr⟩
    · obtain ⟨before, y, rest, k, rfl, hbefore, hfails⟩ := ih hrest
      refine ⟨x :: before, y, rest, k, rfl, ?_, hfails⟩
      rw [applyAll_cons]
      exact bind_eq_ok_iff.mpr ⟨g, u, hr, hbefore⟩

end Interning

namespace Template

open Interning

variable {s t : Store}

theorem settles_collapse {f x : Template} (hf : f.Over s) (hx : x.Over s) :
    Settles (collapse f x) s := by
  rcases collapse_cases f x with ⟨a, b, rfl, rfl⟩ | hopen
  · rw [collapse_fixed]
    exact (settles_apply hf hx).map fixed
  · rw [hopen]
    exact settles_pure _

theorem settles_canonicalize {u : Template} (hu : u.Over s) : Settles u.canonicalize s := by
  induction u generalizing s with
  | fixed id => exact settles_pure _
  | hole h => exact settles_pure _
  | application f x ihf ihx =>
    refine (ihf hu.1).bind (keeps_canonicalize hu.1) ?_
    intro f' t hst hf
    have hxt := over_of_le hst.le hu.2
    refine (ihx hxt).bind (keeps_canonicalize hxt) ?_
    intro x' t' htt' hx
    exact settles_collapse (over_of_le htt'.le hf.1) hx.1

theorem settles_instantiate {u : Template} (hu : u.Over s) {residuals : List TypeId}
    (hr : ∀ r ∈ residuals, r ∈ s) : Settles (u.instantiate residuals) s := by
  induction u generalizing s with
  | fixed id => exact settles_pure _
  | hole h =>
    unfold instantiate
    split
    · exact settles_pure _
    · exact settles_throw _
  | application f x ihf ihx =>
    refine (ihf hu.1 hr).bind (keeps_instantiate hu.1 hr) ?_
    intro a t hst ha
    have hxt := over_of_le hst.le hu.2
    have hrt : ∀ r ∈ residuals, r ∈ t := fun r hm => Store.mem_of_le hst.le (hr r hm)
    refine (ihx hxt hrt).bind (keeps_instantiate hxt hrt) ?_
    intro b t' htt' hb
    exact (settles_apply (Store.mem_of_le htt'.le ha) hb).adaptExcept _

/-- Putting residuals into a template fails for want of a residual or by kind. -/
theorem instantiate_error {u : Template} {residuals : List TypeId} {e : FormError}
    (h : u.instantiate residuals s = .error e t) :
    (∃ k ∈ u.holes, residuals.length ≤ k ∧ e = .holeOutOfRange k residuals.length) ∨
      ∃ cause, e = .kind cause := by
  induction u generalizing s with
  | fixed id => contradiction
  | hole k =>
    cases hr : residuals[k]? with
    | some id =>
      rw [instantiate, hr] at h
      contradiction
    | none =>
      rw [instantiate, hr] at h
      obtain ⟨rfl, _⟩ := EStateM.Result.error.inj h
      exact .inl ⟨k, List.mem_singleton.mpr rfl, List.getElem?_eq_none_iff.mp hr, rfl⟩
  | application f x ihf ihx =>
    rw [instantiate] at h
    rcases bind_eq_error_iff.mp h with hf | ⟨a, u, _, h⟩
    · refine (ihf hf).imp_left ?_
      rintro ⟨k, hk, hle⟩
      exact ⟨k, List.mem_append_left _ hk, hle⟩
    rcases bind_eq_error_iff.mp h with hx | ⟨b, v, _, h⟩
    · refine (ihx hx).imp_left ?_
      rintro ⟨k, hk, hle⟩
      exact ⟨k, List.mem_append_right _ hk, hle⟩
    · obtain ⟨cause, _, rfl⟩ := adaptExcept_eq_error_iff.mp h
      exact .inr ⟨cause, rfl⟩

end Template

namespace Form

open Interning

variable {s t : Store}

theorem settles_ofTemplate {body : Template} (hb : body.Over s) (arity : Nat) :
    Settles (ofTemplate arity body) s := by
  unfold ofTemplate
  split
  · exact settles_throw _
  · refine ((Template.settles_canonicalize hb).adaptExcept _).bind
      ((Template.keeps_canonicalize hb).adaptExcept _) ?_
    intro u t _ _
    exact settles_pure _

theorem settles_instantiate {f : Form} (hf : f.body.Over s) {residuals : List TypeId}
    (hr : ∀ r ∈ residuals, r ∈ s) : Settles (f.instantiate residuals) s := by
  unfold instantiate
  split
  · exact Template.settles_instantiate hf hr
  · exact settles_throw _

/-- A template is refused before anything is stored, or by kind. -/
theorem ofTemplate_error {arity : Nat} {body : Template} {e : FormError}
    (h : ofTemplate arity body s = .error e t) :
    (t = s ∧ fault? arity body = some e) ∨ ∃ cause, e = .kind cause := by
  cases hfault : fault? arity body with
  | some e' =>
    rw [ofTemplate, hfault] at h
    obtain ⟨rfl, rfl⟩ := EStateM.Result.error.inj h
    exact .inl ⟨rfl, rfl⟩
  | none =>
    rw [ofTemplate, hfault] at h
    rcases bind_eq_error_iff.mp h with h | ⟨u, v, _, h⟩
    · obtain ⟨cause, _, rfl⟩ := adaptExcept_eq_error_iff.mp h
      exact .inr ⟨cause, rfl⟩
    · contradiction

/-- An instance is refused before anything is stored, or by what its template is refused for. -/
theorem instantiate_error {f : Form} {residuals : List TypeId} {e : FormError}
    (h : f.instantiate residuals s = .error e t) :
    (t = s ∧ residuals.length ≠ f.arity ∧ e = .residualCount f.arity residuals.length) ∨
      (∃ k n, e = .holeOutOfRange k n) ∨ ∃ cause, e = .kind cause := by
  unfold instantiate at h
  split at h
  · rcases Template.instantiate_error h with ⟨k, _, _, rfl⟩ | ⟨cause, rfl⟩
    · exact .inr (.inl ⟨k, _, rfl⟩)
    · exact .inr (.inr ⟨cause, rfl⟩)
  · next hcount =>
    obtain ⟨rfl, rfl⟩ := EStateM.Result.error.inj h
    exact .inl ⟨rfl, hcount, rfl⟩

end Form

namespace Operation

open Interning

variable {s t : Store}

theorem settles_run {op : Operation} (h : op.Issued s) : Settles op.run s := by
  cases op with
  | declare name kind => exact ((settles_declare name kind).adaptExcept _).map _
  | apply f x => exact ((settles_apply h.1 h.2).adaptExcept _).map _
  | applyAll f xs => exact ((settles_applyAll h.1 h.2).adaptExcept _).map _
  | form arity body => exact (Form.settles_ofTemplate h arity).map _
  | instantiate f rs => exact (Form.settles_instantiate h.1 h.2).map _

/-- Failures that come before anything is stored: every failure of a declaration or of a single
application, a form refused for its arity or its holes, an instance refused for its count of
residuals. -/
def RefusesAtOnce : Operation → FormError → Prop
  | declare _ _, _ => True
  | apply _ _, _ => True
  | form _ _, .unsupportedArity _ => True
  | form _ _, .holeOutOfRange _ _ => True
  | instantiate _ _, .residualCount _ _ => True
  | _, _ => False

theorem eq_of_refusesAtOnce {op : Operation} {e : FormError} (h : op.run s = .error e t)
    (he : op.RefusesAtOnce e) : t = s := by
  cases op with
  | declare name kind =>
    obtain ⟨cause, hr, _⟩ := adaptExcept_eq_error_iff.mp (map_eq_error_iff.mp h)
    exact declare_error hr
  | apply f x =>
    obtain ⟨cause, hr, _⟩ := adaptExcept_eq_error_iff.mp (map_eq_error_iff.mp h)
    exact apply_error hr
  | applyAll f xs => exact he.elim
  | form arity body =>
    rcases Form.ofTemplate_error (map_eq_error_iff.mp h) with ⟨ht, _⟩ | ⟨cause, rfl⟩
    · exact ht
    · exact he.elim
  | instantiate f rs =>
    rcases Form.instantiate_error (map_eq_error_iff.mp h) with ⟨ht, _⟩ | ⟨k, n, rfl⟩ | ⟨cause, rfl⟩
    · exact ht
    · exact he.elim
    · exact he.elim

theorem run_applyAll_error {f : TypeId} {xs : List TypeId} {e : FormError}
    (h : (applyAll f xs).run s = .error e t) :
    ∃ before x rest g, xs = before ++ x :: rest ∧
      (applyAll f before).run s = .ok (.type g) t ∧ (apply g x).run t = .error e t := by
  obtain ⟨cause, hr, rfl⟩ := adaptExcept_eq_error_iff.mp (map_eq_error_iff.mp h)
  obtain ⟨before, x, rest, g, hxs, hbefore, hfails⟩ := applyAll_error hr
  refine ⟨before, x, rest, g, hxs, ?_, ?_⟩
  · exact map_eq_ok_iff.mpr ⟨g, adaptExcept_eq_ok_iff.mpr hbefore, rfl⟩
  · exact map_eq_error_iff.mpr (adaptExcept_eq_error_iff.mpr ⟨cause, hfails, rfl⟩)

end Operation

/-- An operation appends to the store, whether it succeeds or fails, and what it is refused for at
once appends nothing; a list of arguments that fails leaves what the arguments before the failure
leave. In every store that is reached afterwards the operation has the same answer and appends
nothing. -/
theorem answers_are_permanent {s : Store} (hs : s.Reachable) {op : Operation} (h : op.Issued s) :
    s ≤ op.after s ∧
    (∀ id ∈ s, (op.after s).shape? id = s.shape? id ∧ (op.after s).kind id = s.kind id) ∧
    (∀ e t, op.run s = .error e t → op.RefusesAtOnce e → t = s) ∧
    (∀ f xs e t, op = .applyAll f xs → op.run s = .error e t →
      ∃ before x rest g, xs = before ++ x :: rest ∧
        (Operation.applyAll f before).run s = .ok (.type g) t ∧
        (Operation.apply g x).run t = .error e t) ∧
    ∀ u, (op.after s).Reaches u →
      (∀ a t, op.run s = .ok a t → op.run u = .ok a u) ∧
      ∀ e t, op.run s = .error e t → op.run u = .error e u := by
  have hle := (Operation.grows_after h).le
  have hsettled := Operation.settles_run h
  refine ⟨hle, ?_, ?_, ?_, ?_⟩
  · intro id hid
    exact ⟨Store.shape?_of_le hle hid, Store.kind_of_le hle hid⟩
  · intro e t
    exact Operation.eq_of_refusesAtOnce
  · rintro f xs e t rfl
    exact Operation.run_applyAll_error
  · intro u hu
    have hreachable : u.Reachable := (hs.step op h).trans hu
    constructor
    · intro a t hr
      have hafter : op.after s = t := by rw [Operation.after, hr]
      exact (hsettled.of_ok hr).2 u hreachable.wellFormed (hafter ▸ hu.grows.le)
    · intro e t hr
      have hafter : op.after s = t := by rw [Operation.after, hr]
      exact (hsettled.of_error hr).2 u hreachable.wellFormed (hafter ▸ hu.grows.le)

/-- `Pair String Pair` is refused at its second argument, for its kind. -/
def Operation.pairStringPair : Operation := .applyAll ⟨2⟩ [⟨1⟩, ⟨2⟩]

/-- `Pair String` is stored on the way to the failure and stays. When `Unit` has been declared the
failure is the same and stores nothing. -/
theorem pair_string_pair_fails_again :
    ∃ s, Operation.pairStringPair.run Store.pairs =
        .error (.kind (.argumentMismatch ⟨6⟩ ⟨2⟩ .proper (.ofArity 2))) s ∧
      Store.pairs ≤ s ∧ s.lookup (.application ⟨2⟩ ⟨1⟩) = some ⟨6⟩ ∧
      Operation.pairStringPair.run ((Operation.declare "Unit" .proper).after s) =
        .error (.kind (.argumentMismatch ⟨6⟩ ⟨2⟩ .proper (.ofArity 2)))
          ((Operation.declare "Unit" .proper).after s) := by
  have hissued : Operation.pairStringPair.Issued Store.pairs := by decide +kernel
  have hcause : (match Operation.pairStringPair.run Store.pairs with
      | .error e _ => some e
      | .ok _ _ => none) = some (.kind (.argumentMismatch ⟨6⟩ ⟨2⟩ .proper (.ofArity 2))) := by
    decide +kernel
  have hfails : Operation.pairStringPair.run Store.pairs =
      .error (.kind (.argumentMismatch ⟨6⟩ ⟨2⟩ .proper (.ofArity 2)))
        (Operation.pairStringPair.after Store.pairs) := by
    unfold Operation.after
    cases hr : Operation.pairStringPair.run Store.pairs with
    | ok a t => simp [hr] at hcause
    | error e t => simpa [hr] using hcause
  obtain ⟨hle, _, _, _, hagain⟩ := answers_are_permanent Store.reachable_pairs hissued
  have hlater := (Store.Reaches.refl (Operation.pairStringPair.after Store.pairs)).step
    (.declare "Unit" .proper) trivial
  exact ⟨_, hfails, hle, by decide +kernel, (hagain _ hlater).2 _ _ hfails⟩

end FormRecovery
