import Mathlib.Data.List.Forall2

/-!
# Lists of attempts

Trying each element of a list in turn succeeds when every attempt does, and fails with the first
one that fails. `mapM_eq_ok_iff` and `mapM_eq_error_iff` say so of any attempt that may fail.

Different attempts one after another fail with the first fault too: `bind_eq_error_iff_firstFault`
adds an attempt in front of others.
-/

set_option autoImplicit false
set_option relaxedAutoImplicit false

namespace RunningBalance.Attempts

variable {α ε β : Type*} {attempt : α → Except ε β}

/-- What every result says of its element holds of all elements. -/
theorem forall_of_forall₂ {R : α → β → Prop} {p : α → Prop} {xs : List α} {ys : List β}
    (h : List.Forall₂ R xs ys) (hp : ∀ x y, R x y → p x) : ∀ x ∈ xs, p x :=
  ((List.forall₂_and_left xs ys).1 (h.imp fun x y hxy ↦ ⟨hp x y hxy, hxy⟩)).1

/-- Trying a list tries its first element and then the rest. -/
theorem mapM_cons_eq_ok_iff {x : α} {rest : List α} {results : List β} :
    (x :: rest).mapM attempt = .ok results ↔
      ∃ y ys, attempt x = .ok y ∧ rest.mapM attempt = .ok ys ∧ results = y :: ys := by
  rw [List.mapM_cons]
  cases attempt x with
  | error fault => simp [bind, Except.bind]
  | ok y =>
    cases rest.mapM attempt with
    | error fault => simp [bind, Except.bind]
    | ok ys => simp [bind, Except.bind, pure, Except.pure, eq_comm]

/-- Trying a list fails with its first element, or with the rest. -/
theorem mapM_cons_eq_error_iff {x : α} {rest : List α} {fault : ε} :
    (x :: rest).mapM attempt = .error fault ↔
      attempt x = .error fault ∨ (∃ y, attempt x = .ok y) ∧ rest.mapM attempt = .error fault := by
  rw [List.mapM_cons]
  cases attempt x with
  | error other => simp [bind, Except.bind]
  | ok y =>
    cases rest.mapM attempt with
    | error other => simp [bind, Except.bind]
    | ok ys => simp [bind, Except.bind, pure, Except.pure]

/-- A list of attempts succeeds with the results of all of them, in their order. -/
theorem mapM_eq_ok_iff {xs : List α} {ys : List β} :
    xs.mapM attempt = .ok ys ↔ List.Forall₂ (fun x y ↦ attempt x = .ok y) xs ys := by
  induction xs generalizing ys with
  | nil => simp [pure, Except.pure, eq_comm]
  | cons x rest ih =>
    rw [mapM_cons_eq_ok_iff, List.forall₂_cons_left_iff]
    simp only [ih]

/-- A list of attempts fails with the fault of the first one that fails. -/
theorem mapM_eq_error_iff {xs : List α} {fault : ε} :
    xs.mapM attempt = .error fault ↔
      ∃ before x after, xs = before ++ x :: after ∧
        (∀ earlier ∈ before, ∃ y, attempt earlier = .ok y) ∧ attempt x = .error fault := by
  induction xs with
  | nil => simp [pure, Except.pure]
  | cons x rest ih =>
    rw [mapM_cons_eq_error_iff, ih]
    constructor
    · rintro (hx | ⟨hx, before, bad, after, rfl, hbefore, hbad⟩)
      · exact ⟨[], x, rest, rfl, by simp, hx⟩
      · exact ⟨x :: before, bad, after, rfl, List.forall_mem_cons.2 ⟨hx, hbefore⟩, hbad⟩
    · rintro ⟨before, bad, after, hsplit, hbefore, hbad⟩
      cases before with
      | nil =>
        obtain ⟨rfl, rfl⟩ := List.cons.inj hsplit
        exact .inl hbad
      | cons first before =>
        obtain ⟨rfl, rfl⟩ := List.cons.inj hsplit
        obtain ⟨hfirst, hrest⟩ := List.forall_mem_cons.1 hbefore
        exact .inr ⟨hfirst, before, bad, after, rfl, hrest, hbad⟩

/-- A list of attempts without faults succeeds with the results of all of them, in their order. -/
theorem mapM_eq_some_iff {attempt? : α → Option β} {xs : List α} {ys : List β} :
    xs.mapM attempt? = some ys ↔ List.Forall₂ (fun x y ↦ attempt? x = some y) xs ys := by
  induction xs generalizing ys with
  | nil => simp [pure, eq_comm]
  | cons x rest ih =>
    rw [List.mapM_cons, List.forall₂_cons_left_iff]
    simp only [← ih, bind, Option.bind_eq_some_iff, pure, Option.some.injEq]
    constructor
    · rintro ⟨y, hy, ys, hys, rfl⟩
      exact ⟨y, ys, hy, hys, rfl⟩
    · rintro ⟨y, ys, hy, hys, rfl⟩
      exact ⟨y, hy, ys, hys, rfl⟩

/-- A list of attempts without faults succeeds if every attempt does. -/
theorem isSome_mapM_iff {attempt? : α → Option β} {xs : List α} :
    (xs.mapM attempt?).isSome ↔ ∀ x ∈ xs, (attempt? x).isSome := by
  induction xs with
  | nil => simp
  | cons x rest ih =>
    rw [List.forall_mem_cons, ← ih, List.mapM_cons]
    cases attempt? x <;> cases rest.mapM attempt? <;> simp

/-! ### Different attempts one after another -/

theorem bind_eq_ok_iff {α β : Type} {x : Except ε α} {next : α → Except ε β} {result : β} :
    (x >>= next) = .ok result ↔ ∃ a, x = .ok a ∧ next a = .ok result := by
  cases x <;> simp [bind, Except.bind]

/-- A fault that is put differently is a fault all the same. -/
theorem mapError_eq_ok_iff {ε' : Type*} {x : Except ε α} {f : ε → ε'} {result : α} :
    x.mapError f = .ok result ↔ x = .ok result := by
  cases x <;> simp [Except.mapError]

theorem mapError_eq_error_iff {ε' : Type*} {x : Except ε α} {f : ε → ε'} {fault : ε'} :
    x.mapError f = .error fault ↔ ∃ cause, x = .error cause ∧ fault = f cause := by
  cases x <;> simp [Except.mapError, eq_comm]

theorem discard_eq_ok_iff {α : Type} {x : Except ε α} {result : Unit} :
    discard x = .ok result ↔ ∃ a, x = .ok a := by
  cases x <;> simp [discard, Functor.discard, Functor.mapConst, Except.map]

theorem discard_eq_error_iff {α : Type} {x : Except ε α} {fault : ε} :
    discard x = .error fault ↔ x = .error fault := by
  cases x <;> simp [discard, Functor.discard, Functor.mapConst, Except.map]

section FirstFault

variable {σ : Type*} {FaultAt : σ → ε → Prop} {place : σ} {places : List σ} {fault : ε}

/-- A fault at the first of the places at which there is one. -/
inductive FirstFault (FaultAt : σ → ε → Prop) : List σ → ε → Prop
  | here {place : σ} {places : List σ} {fault : ε} (h : FaultAt place fault) :
    FirstFault FaultAt (place :: places) fault
  | later {place : σ} {places : List σ} {fault : ε} (hnone : ∀ other, ¬FaultAt place other)
      (h : FirstFault FaultAt places fault) : FirstFault FaultAt (place :: places) fault

theorem FirstFault.exists_faultAt (h : FirstFault FaultAt places fault) :
    ∃ place, FaultAt place fault := by
  induction h with
  | here hfault => exact ⟨_, hfault⟩
  | later _ _ ih => exact ih

/-- An attempt in front of others fails with its own fault, or has none and the others fail. -/
theorem bind_eq_error_iff_firstFault {α β : Type} {x : Except ε α} {next : α → Except ε β}
    (hx : ∀ fault, x = .error fault ↔ FaultAt place fault)
    (hnext : ∀ a, x = .ok a → (next a = .error fault ↔ FirstFault FaultAt places fault)) :
    (x >>= next) = .error fault ↔ FirstFault FaultAt (place :: places) fault := by
  cases x with
  | error own =>
    have hown : FaultAt place own := (hx own).1 rfl
    constructor
    · rintro ⟨⟩
      exact .here hown
    · rintro (hfault | ⟨hnone, -⟩)
      · rw [← Except.error.inj ((hx fault).2 hfault)]
        rfl
      · exact absurd hown (hnone own)
  | ok a =>
    have hnone (other : ε) : ¬FaultAt place other := fun hother ↦ nomatch (hx other).2 hother
    constructor
    · intro h
      exact .later hnone ((hnext a rfl).1 h)
    · rintro (hfault | ⟨-, h⟩)
      · exact absurd hfault (hnone fault)
      · exact (hnext a rfl).2 h

end FirstFault

end RunningBalance.Attempts
