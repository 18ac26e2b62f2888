import Mathlib.Data.List.Nodup

set_option autoImplicit false

/-! # Visits one after another

A list of things is visited in order, each visit changing a common state. When every visit concerns one
key of that state and no other, the state after all visits can be told key by key: what a visit finds at
its own key is what was there at the beginning, and what it leaves there is there at the end
(`mapM_visits`).

Programs may also be compared: `Related` says that two of them give related answers in related states,
when they start in related ones, and `Noting` that one of them is the other but for the notes that it
takes. -/

namespace TabletFleet.StateRun

variable {σ α β ι κ V : Type}

/-! ## Single steps -/

theorem bind_apply (x : StateM σ α) (f : α → StateM σ β) (s : σ) :
    (x >>= f) s = f (x s).1 (x s).2 := rfl

theorem pure_apply (a : α) (s : σ) : (pure a : StateM σ α) s = (a, s) := rfl

theorem get_apply (s : σ) : (get : StateM σ σ) s = (s, s) := rfl

theorem modify_apply (f : σ → σ) (s : σ) : (modify f : StateM σ PUnit) s = (⟨⟩, f s) := rfl

theorem mapM_cons_state (f : ι → StateM σ α) (x : ι) (xs : List ι) (s : σ) :
    ((x :: xs).mapM f s).2 = (xs.mapM f (f x s).2).2 := by
  rw [List.mapM_cons]
  rfl

theorem mapM_cons_answer (f : ι → StateM σ α) (x : ι) (xs : List ι) (s : σ) :
    ((x :: xs).mapM f s).1 = (f x s).1 :: (xs.mapM f (f x s).2).1 := by
  rw [List.mapM_cons]
  rfl

/-! ## Whole runs -/

section Visits

variable {W : Type}

/-- Visits that keep an invariant and act on the world each in its own way. -/
theorem mapM_effect {Inv : σ → Prop} (world : σ → W) (effect : ι → W → W) (f : ι → StateM σ α)
    (xs : List ι) {s : σ} (hinv : Inv s)
    (step : ∀ x ∈ xs, ∀ t, Inv t → Inv (f x t).2 ∧ world (f x t).2 = effect x (world t)) :
    Inv (xs.mapM f s).2 ∧
      world (xs.mapM f s).2 = xs.foldl (fun w x => effect x w) (world s) := by
  induction xs generalizing s with
  | nil => exact ⟨hinv, rfl⟩
  | cons x xs ih =>
      obtain ⟨hx, hworld⟩ := step x (List.mem_cons_self ..) s hinv
      have hrest := ih hx fun y hy => step y (List.mem_cons_of_mem _ hy)
      rw [mapM_cons_state, List.foldl_cons, ← hworld]
      exact hrest

/-- What is known of visits to things that have a key each: an invariant of the state, the effect on the
world in it, and what becomes of the view of the state at the visited key. -/
structure Visits (σ ι κ W V : Type) where
  keyOf : ι → κ
  Inv : σ → Prop
  world : σ → W
  effect : ι → W → W
  view : κ → σ → V
  after : ι → V → Prop

/-- A visit does as it should in a state: it keeps the invariant, acts on the world, brings about the
view at its own key and leaves the views at all others. -/
structure Visits.Step (v : Visits σ ι κ W V) (f : ι → StateM σ α) (x : ι) (s : σ) : Prop where
  inv : v.Inv (f x s).2
  world : v.world (f x s).2 = v.effect x (v.world s)
  after : v.after x (v.view (v.keyOf x) (f x s).2)
  frame : ∀ k, k ≠ v.keyOf x → v.view k (f x s).2 = v.view k s

/-- The same visits, made to things that stand for those that are visited. -/
def Visits.comap {τ : Type} (v : Visits σ ι κ W V) (g : τ → ι) : Visits σ τ κ W V where
  keyOf x := v.keyOf (g x)
  Inv := v.Inv
  world := v.world
  effect x := v.effect (g x)
  view := v.view
  after x := v.after (g x)

theorem Visits.Step.comap {τ : Type} {v : Visits σ ι κ W V} {f : ι → StateM σ α} {g : τ → ι}
    {f' : τ → StateM σ α} {x : τ} {s : σ} (h : v.Step f (g x) s) (hsame : f' x = f (g x)) :
    (v.comap g).Step f' x s := by
  obtain ⟨inv, world, after, frame⟩ := h
  rw [← hsame] at inv world after frame
  exact ⟨inv, world, after, frame⟩

/-- Visits to things with keys of their own, each of which may rely on the invariant and on finding the
view at its own key as it was at the beginning. -/
theorem mapM_visits {v : Visits σ ι κ W V} {f : ι → StateM σ α} {xs : List ι} {s : σ}
    (hinv : v.Inv s) (hnodup : (xs.map v.keyOf).Nodup)
    (step : ∀ x ∈ xs, ∀ t, v.Inv t → v.view (v.keyOf x) t = v.view (v.keyOf x) s → v.Step f x t) :
    v.Inv (xs.mapM f s).2 ∧
      v.world (xs.mapM f s).2 = xs.foldl (fun w x => v.effect x w) (v.world s) ∧
      (∀ x ∈ xs, v.after x (v.view (v.keyOf x) (xs.mapM f s).2)) ∧
      ∀ k, k ∉ xs.map v.keyOf → v.view k (xs.mapM f s).2 = v.view k s := by
  induction xs generalizing s with
  | nil => exact ⟨hinv, rfl, by simp, fun k _ => rfl⟩
  | cons x xs ih =>
      rw [List.map_cons, List.nodup_cons] at hnodup
      have hx := step x (List.mem_cons_self ..) s hinv rfl
      -- the first visit leaves the views on which the later ones rely
      have hrest : ∀ y ∈ xs, ∀ t, v.Inv t →
          v.view (v.keyOf y) t = v.view (v.keyOf y) (f x s).2 → v.Step f y t := by
        intro y hy t ht hview
        have hne : v.keyOf y ≠ v.keyOf x := fun h => hnodup.1 (h ▸ List.mem_map_of_mem hy)
        exact step y (List.mem_cons_of_mem _ hy) t ht (hview.trans (hx.frame _ hne))
      obtain ⟨hinvEnd, hworldEnd, hafterEnd, hframeEnd⟩ := ih hx.inv hnodup.2 hrest
      rw [mapM_cons_state]
      refine ⟨hinvEnd, ?_, fun y hy => ?_, fun k hk => ?_⟩
      · rw [hworldEnd, hx.world, List.foldl_cons]
      · rcases List.mem_cons.1 hy with rfl | hy
        · -- and they leave what it has brought about
          rw [hframeEnd _ hnodup.1]
          exact hx.after
        · exact hafterEnd y hy
      · rw [List.map_cons, List.mem_cons, not_or] at hk
        rw [hframeEnd k hk.2, hx.frame k hk.1]

/-- What such visits answer, if each of them can tell it from the invariant and the view at its own
key. -/
theorem mapM_answers {v : Visits σ ι κ W V} {f : ι → StateM σ α} {xs : List ι} {s : σ}
    (answer : α → β) (expected : ι → β) (hinv : v.Inv s) (hnodup : (xs.map v.keyOf).Nodup)
    (step : ∀ x ∈ xs, ∀ t, v.Inv t → v.view (v.keyOf x) t = v.view (v.keyOf x) s →
      v.Step f x t ∧ answer (f x t).1 = expected x) :
    (xs.mapM f s).1.map answer = xs.map expected := by
  induction xs generalizing s with
  | nil => rfl
  | cons x xs ih =>
      rw [List.map_cons, List.nodup_cons] at hnodup
      obtain ⟨hx, hanswer⟩ := step x (List.mem_cons_self ..) s hinv rfl
      rw [mapM_cons_answer, List.map_cons, List.map_cons, hanswer, ih hx.inv hnodup.2]
      intro y hy t ht hview
      have hne : v.keyOf y ≠ v.keyOf x := fun h => hnodup.1 (h ▸ List.mem_map_of_mem hy)
      exact step y (List.mem_cons_of_mem _ hy) t ht (hview.trans (hx.frame _ hne))

end Visits

/-! ## Two runs side by side -/

section Related

variable {τ γ δ : Type}

/-- Started in related states, the programs give related answers and end in related states. -/
def Related (R : σ → τ → Prop) (V : α → β → Prop) (x : StateM σ α) (y : StateM τ β) : Prop :=
  ∀ s s', R s s' → V (x s).1 (y s').1 ∧ R (x s).2 (y s').2

namespace Related

variable {R : σ → τ → Prop} {V : α → β → Prop} {W : γ → δ → Prop}

theorem pure {a : α} {b : β} (h : V a b) : Related R V (Pure.pure a) (Pure.pure b) :=
  fun _ _ hs => ⟨h, hs⟩

theorem bind {x : StateM σ α} {y : StateM τ β} {f : α → StateM σ γ} {g : β → StateM τ δ}
    (hx : Related R V x y) (hf : ∀ a b, V a b → Related R W (f a) (g b)) :
    Related R W (x >>= f) (y >>= g) := by
  intro s s' hs
  obtain ⟨hanswer, hstate⟩ := hx s s' hs
  exact hf _ _ hanswer _ _ hstate

/-- A look at the states, after which the programs may go on with what they have seen. -/
theorem looking {f : σ → StateM σ γ} {g : τ → StateM τ δ}
    (h : ∀ s s', R s s' → Related R W (f s) (g s')) : Related R W (get >>= f) (get >>= g) :=
  fun s s' hs => h s s' hs s s' hs

theorem imp {V' : α → β → Prop} {x : StateM σ α} {y : StateM τ β} (hx : Related R V x y)
    (h : ∀ a b, V a b → V' a b) : Related R V' x y := by
  intro s s' hs
  obtain ⟨hanswer, hstate⟩ := hx s s' hs
  exact ⟨h _ _ hanswer, hstate⟩

theorem of_modify {f : σ → σ} {g : τ → τ} (h : ∀ s s', R s s' → R (f s) (g s')) :
    Related R Eq (modify f : StateM σ PUnit) (modify g : StateM τ PUnit) :=
  fun s s' hs => ⟨rfl, h s s' hs⟩

/-- One visit after another, each with the same answer in related states. -/
theorem mapM {f : ι → StateM σ α} {g : ι → StateM τ α} {xs : List ι}
    (h : ∀ x ∈ xs, Related R Eq (f x) (g x)) : Related R Eq (xs.mapM f) (xs.mapM g) := by
  induction xs with
  | nil => exact pure rfl
  | cons x xs ih =>
      have hrest := ih fun y hy => h y (List.mem_cons_of_mem _ hy)
      rw [List.mapM_cons, List.mapM_cons]
      refine bind (h x (List.mem_cons_self ..)) fun a b hab => ?_
      obtain rfl := hab
      refine bind hrest fun as bs habs => ?_
      obtain rfl := habs
      exact pure rfl

end Related

end Related

/-! ## A run that takes notes -/

section Noting

variable {τ ν : Type}

/-- The states of the first program are those of the second with notes beside them. It goes as the second
does, what it notes fits its answer, and an invariant of the states is kept. -/
def Noting (withNotes : σ → List ν → τ) (Inv : σ → Prop) (P : α → List ν → Prop) (x : StateM τ α)
    (y : StateM σ α) : Prop :=
  ∀ s notes, Inv s → ∃ more,
    x (withNotes s notes) = ((y s).1, withNotes (y s).2 (notes ++ more)) ∧ P (y s).1 more ∧ Inv (y s).2

namespace Noting

variable {withNotes : σ → List ν → τ} {Inv : σ → Prop} {P : α → List ν → Prop} {Q : β → List ν → Prop}

theorem pure {a : α} (h : P a []) :
    Noting withNotes Inv P (Pure.pure a : StateM τ α) (Pure.pure a : StateM σ α) := by
  intro s notes hs
  exact ⟨[], by rw [List.append_nil]; rfl, h, hs⟩

theorem bind {x : StateM τ α} {y : StateM σ α} {f : α → StateM τ β} {g : α → StateM σ β}
    (hx : Noting withNotes Inv P x y)
    (hf : ∀ a first, P a first → Noting withNotes Inv (fun b rest => Q b (first ++ rest)) (f a) (g a)) :
    Noting withNotes Inv Q (x >>= f) (y >>= g) := by
  intro s notes hs
  obtain ⟨first, hrun, hfirst, hs'⟩ := hx s notes hs
  obtain ⟨rest, hrun', hrest, hs''⟩ := hf (y s).1 first hfirst (y s).2 (notes ++ first) hs'
  refine ⟨first ++ rest, ?_, hrest, hs''⟩
  rw [bind_apply, hrun, hrun', List.append_assoc]
  rfl

theorem imp {P' : α → List ν → Prop} {x : StateM τ α} {y : StateM σ α}
    (hx : Noting withNotes Inv P x y) (h : ∀ a notes, P a notes → P' a notes) :
    Noting withNotes Inv P' x y := by
  intro s notes hs
  obtain ⟨more, hrun, hmore, hs'⟩ := hx s notes hs
  exact ⟨more, hrun, h _ _ hmore, hs'⟩

/-- What is known of the answer anyway. -/
theorem and_answer {R : α → Prop} {x : StateM τ α} {y : StateM σ α} (hx : Noting withNotes Inv P x y)
    (h : ∀ s, R (y s).1) : Noting withNotes Inv (fun a notes => P a notes ∧ R a) x y := by
  intro s notes hs
  obtain ⟨more, hrun, hmore, hs'⟩ := hx s notes hs
  exact ⟨more, hrun, ⟨hmore, h s⟩, hs'⟩

/-- A step that leaves no notes. -/
theorem silent {x : StateM τ α} {y : StateM σ α}
    (hrun : ∀ s notes, x (withNotes s notes) = ((y s).1, withNotes (y s).2 notes))
    (hInv : ∀ s, Inv s → Inv (y s).2) (hP : ∀ s, P (y s).1 []) : Noting withNotes Inv P x y := by
  intro s notes hs
  exact ⟨[], by rw [List.append_nil]; exact hrun s notes, hP s, hInv s hs⟩

/-- A look at the state, after which the programs may go on with what they have seen. -/
theorem looking {f : τ → StateM τ β} {g : σ → StateM σ β}
    (h : ∀ s notes, Noting withNotes Inv Q (f (withNotes s notes)) (g s)) :
    Noting withNotes Inv Q (get >>= f) (get >>= g) :=
  fun s notes hs => h s notes s notes hs

end Noting

end Noting

end TabletFleet.StateRun
