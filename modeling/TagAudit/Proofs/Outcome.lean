import Mathlib.Data.List.Forall2

/-!
# Steps that may fail

* `bind_eq_ok`: two steps end well if both do; `bind_congr_of_ok` compares what follows a step.
* `mapM_eq_ok`, `mapM_eq_ok_iff_forall₂`, `mapM_eq_error`: a step for every item of a list ends well
  if all do; otherwise its fault is that of some item. `forall₂_of_mapM` relates items and results.
* `Yields`: which steps fail, and what holds of the results of all others.
* `run_bind`: two steps on a state.
* `Returns`: what holds of every value that a computation in a monad returns.
-/

namespace TagAudit.Outcome

variable {ε α β : Type}

theorem ok_bind (a : α) (f : α → Except ε β) : (Except.ok a >>= f) = f a := rfl

theorem bind_eq_ok {x : Except ε α} {f : α → Except ε β} {b : β} :
    (x >>= f) = .ok b ↔ ∃ a, x = .ok a ∧ f a = .ok b := by
  cases x with
  | error e => simp [bind, Except.bind]
  | ok a => simp [bind, Except.bind]

theorem bind_eq_error {x : Except ε α} {f : α → Except ε β} {e : ε} :
    (x >>= f) = .error e ↔ x = .error e ∨ ∃ a, x = .ok a ∧ f a = .error e := by
  cases x with
  | error e => simp [bind, Except.bind]
  | ok a => simp [bind, Except.bind]

/-- Two continuations of a step agree if they do on its result. -/
theorem bind_congr_of_ok {x : Except ε α} {f g : α → Except ε β}
    (h : ∀ a, x = .ok a → f a = g a) : x >>= f = x >>= g := by
  cases x with
  | error e => rfl
  | ok a => exact h a rfl

theorem map_eq_ok {x : Except ε α} {f : α → β} {b : β} :
    x.map f = .ok b ↔ ∃ a, x = .ok a ∧ f a = b := by
  cases x with
  | error e => simp [Except.map]
  | ok a => simp [Except.map]

theorem exists_map_eq_ok {x : Except ε α} {f : α → β} :
    (∃ b, f <$> x = .ok b) ↔ ∃ a, x = .ok a := by
  cases x <;> simp [Functor.map, Except.map]

/-- Two steps whose results are put together end well if each does. -/
theorem exists_both_eq_ok {γ : Type} {x : Except ε α} {y : Except ε β} {f : α → β → γ} :
    (∃ c, (do let a ← x; let b ← y; return f a b) = .ok c) ↔
      (∃ a, x = .ok a) ∧ ∃ b, y = .ok b := by
  cases x <;> cases y <;> simp [bind, Except.bind, pure, Except.pure]

theorem mapM_eq_ok {f : α → Except ε β} {xs : List α} {ys : List β} :
    xs.mapM f = .ok ys ↔ xs.map f = ys.map .ok := by
  induction xs generalizing ys with
  | nil => cases ys <;> simp [pure, Except.pure]
  | cons x xs ih =>
    rw [List.mapM_cons, bind_eq_ok]
    constructor
    · rintro ⟨y, hy, h⟩
      obtain ⟨rest, hrest, h⟩ := bind_eq_ok.mp h
      cases h
      rw [List.map_cons, List.map_cons, hy, ih.mp hrest]
    · intro h
      cases ys with
      | nil => simp at h
      | cons y rest =>
        simp only [List.map_cons, List.cons.injEq] at h
        exact ⟨y, h.1, bind_eq_ok.mpr ⟨rest, ih.mpr h.2, rfl⟩⟩

theorem mapM_eq_ok_iff_forall₂ {f : α → Except ε β} {xs : List α} {ys : List β} :
    xs.mapM f = .ok ys ↔ List.Forall₂ (fun x y => f x = .ok y) xs ys := by
  rw [mapM_eq_ok, ← List.forall₂_eq_eq_eq, List.forall₂_map_left_iff, List.forall₂_map_right_iff]

/-- What a step gives of every item stands in a relation to it. -/
theorem forall₂_of_mapM {f : α → Except ε β} {r : α → β → Prop} {xs : List α} {ys : List β}
    (h : xs.mapM f = .ok ys) (hstep : ∀ x ∈ xs, ∀ y, f x = .ok y → r x y) : List.Forall₂ r xs ys :=
  ((List.forall₂_and_left ..).mpr ⟨hstep, mapM_eq_ok_iff_forall₂.mp h⟩).imp fun _ y h => h.1 y h.2

/-- Two steps on every item, one after the other, of which the first ends well. -/
theorem mapM_bind_of_ok {γ : Type} {f : α → Except ε β} {xs : List α} {ys : List β}
    (hf : xs.mapM f = .ok ys) (g : β → Except ε γ) :
    xs.mapM (fun x => f x >>= g) = ys.mapM g := by
  induction mapM_eq_ok_iff_forall₂.mp hf with
  | nil => rfl
  | cons hx h ih =>
    rw [List.mapM_cons, List.mapM_cons, hx, ok_bind, ih (mapM_eq_ok_iff_forall₂.mpr h)]

theorem mapM_bind_eq_ok {γ : Type} {f : α → Except ε β} {g : β → Except ε γ} {xs : List α}
    {ys : List β} {zs : List γ} (hf : xs.mapM f = .ok ys) (hg : ys.mapM g = .ok zs) :
    xs.mapM (fun x => f x >>= g) = .ok zs :=
  (mapM_bind_of_ok hf g).trans hg

theorem mapM_map_eq_ok {γ : Type} {f : α → Except ε β} {xs : List α} {ys : List β}
    (h : xs.mapM f = .ok ys) (g : β → γ) :
    xs.mapM (fun x => do return g (← f x)) = .ok (ys.map g) :=
  mapM_bind_eq_ok h List.mapM_pure

theorem exists_of_mem_mapM {f : α → Except ε β} {xs : List α} {ys : List β} (h : xs.mapM f = .ok ys)
    {y : β} (hy : y ∈ ys) : ∃ x ∈ xs, f x = .ok y := by
  have hmem : Except.ok y ∈ xs.map f := mapM_eq_ok.mp h ▸ List.mem_map_of_mem hy
  exact List.mem_map.mp hmem

theorem exists_mapM_eq_ok {f : α → Except ε β} {xs : List α} :
    (∃ ys, xs.mapM f = .ok ys) ↔ ∀ x ∈ xs, ∃ y, f x = .ok y := by
  induction xs with
  | nil => simp [pure, Except.pure]
  | cons x xs ih =>
    simp only [List.mapM_cons, bind_eq_ok, List.forall_mem_cons, ← ih]
    constructor
    · rintro ⟨-, y, hy, ys, hys, -⟩
      exact ⟨⟨y, hy⟩, ys, hys⟩
    · rintro ⟨⟨y, hy⟩, ys, hys⟩
      exact ⟨y :: ys, y, hy, ys, hys, rfl⟩

theorem mapM_eq_error {f : α → Except ε β} {xs : List α} {e : ε} (h : xs.mapM f = .error e) :
    ∃ x ∈ xs, f x = .error e := by
  induction xs with
  | nil => cases h
  | cons x xs ih =>
    rw [List.mapM_cons, bind_eq_error] at h
    obtain hx | ⟨y, -, h⟩ := h
    · exact ⟨x, by simp, hx⟩
    · obtain h | ⟨ys, -, h⟩ := bind_eq_error.mp h
      · obtain ⟨z, hz, he⟩ := ih h
        exact ⟨z, by simp [hz], he⟩
      · cases h

/-- A step fails exactly if `failing` holds, and else its result has a property. -/
inductive Yields (failing : Prop) (p : α → Prop) : Except ε α → Prop where
  | ok {a : α} : ¬failing → p a → Yields failing p (.ok a)
  | error {e : ε} : failing → Yields failing p (.error e)

namespace Yields

variable {failing failing' : Prop} {p : α → Prop} {q : β → Prop} {x : Except ε α}

theorem bind {f : α → Except ε β} (hx : Yields failing p x)
    (hf : ∀ a, p a → Yields failing' q (f a)) : Yields (failing ∨ failing') q (x >>= f) := by
  cases hx with
  | error h => exact .error (.inl h)
  | @ok a hfailing ha =>
    rw [ok_bind]
    generalize f a = y, hf a ha = hy
    cases hy with
    | error h => exact .error (.inr h)
    | ok hfailing' hb => exact .ok (not_or.mpr ⟨hfailing, hfailing'⟩) hb

theorem map {f : α → β} (hx : Yields failing p x) (hf : ∀ a, p a → q (f a)) :
    Yields failing q (x.map f) := by
  cases hx with
  | error h => exact .error h
  | ok hfailing ha => exact .ok hfailing (hf _ ha)

theorem returns {f : α → β} (hx : Yields failing p x) (hf : ∀ a, p a → q (f a)) :
    Yields failing q (do return f (← x)) := by
  cases hx with
  | error h => exact .error h
  | ok hfailing ha => exact .ok hfailing (hf _ ha)

theorem imp {p' : α → Prop} (hx : Yields failing p x) (h : ∀ a, p a → p' a) :
    Yields failing p' x := by
  cases hx with
  | error hfailing => exact .error hfailing
  | ok hfailing ha => exact .ok hfailing (h _ ha)

theorem of_iff (hx : Yields failing p x) (h : failing ↔ failing') : Yields failing' p x :=
  propext h ▸ hx

theorem exists_iff (hx : Yields failing p x) : (∃ a, x = .ok a ∧ p a) ↔ ¬failing := by
  cases hx with
  | error h => exact iff_of_false (fun ⟨_, hok, _⟩ => nomatch hok) (not_not_intro h)
  | ok hfailing ha => exact iff_of_true ⟨_, rfl, ha⟩ hfailing

end Yields

/-- Two steps on a state run one after the other. -/
theorem run_bind {σ : Type} (x : StateM σ α) (f : α → StateM σ β) (s : σ) :
    (x >>= f) s = f (x s).1 (x s).2 := rfl

/-! ## What computations return -/

section

variable {m : Type → Type} [Monad m] {p : α → Prop} {q : β → Prop}

/-- Whatever a computation returns has a property: there is a computation that does the same and
returns its values with a proof of it. -/
def Returns (p : α → Prop) (x : m α) : Prop := ∃ y : m {a // p a}, Subtype.val <$> y = x

/-- A computation on a state returns one value for every state that it starts in. -/
theorem returns_state_iff {σ : Type} {x : StateM σ α} : Returns p x ↔ ∀ s, p (x s).1 := by
  constructor
  · rintro ⟨y, rfl⟩ s
    exact (y s).1.property
  · intro h
    exact ⟨fun s => (⟨(x s).1, h s⟩, (x s).2), rfl⟩

variable [LawfulMonad m]

theorem returns_pure {a : α} (h : p a) : Returns p (pure a : m α) := ⟨pure ⟨a, h⟩, by simp⟩

theorem returns_any (x : m α) : Returns (fun _ => True) x :=
  ⟨(fun a => ⟨a, trivial⟩) <$> x, by simp⟩

theorem Returns.bind {x : m α} {f : α → m β} (hx : Returns p x)
    (hf : ∀ a, p a → Returns q (f a)) : Returns q (x >>= f) := by
  obtain ⟨y, rfl⟩ := hx
  refine ⟨y >>= fun a => (hf a.1 a.2).choose, ?_⟩
  have hnext : ∀ a : {a // p a}, Subtype.val <$> (hf a.1 a.2).choose = f a.1 :=
    fun a => (hf a.1 a.2).choose_spec
  simp only [map_bind, hnext, bind_map_left]

theorem Returns.imp {p' : α → Prop} {x : m α} (hx : Returns p x) (h : ∀ a, p a → p' a) :
    Returns p' x := by
  obtain ⟨y, rfl⟩ := hx
  exact ⟨(fun a => ⟨a.1, h a.1 a.2⟩) <$> y, by simp⟩

end

end TagAudit.Outcome
