import TabletFleet.Proofs.Store.Action

set_option autoImplicit false

/-! # Plans

The calls of a whole sweep over objects of one kind, at most one for each key. What a plan does to the
store is told key by key: its call at a key finds there what was there before the plan was carried out
(`Plan.fetch?_run`), and where it has no call nothing changes. -/

namespace TabletFleet

/-- Calls to be made in turn, one for each of the keys. -/
structure Plan (K : Type) [ManagedObject K] where
  entries : List (ObjectKey × Action K)
  nodup : (entries.map (·.1)).Nodup
  fits : ∀ e ∈ entries, e.2.Fits e.1

namespace Plan

variable {K : Type} [Stored K]

/-- Make calls in turn. -/
def performAll (entries : List (ObjectKey × Action K)) (s : MemoryStore) : MemoryStore :=
  entries.foldl (fun s e => e.2.perform e.1 s) s

/-- The store after the plan has been carried out. -/
def run (p : Plan K) (s : MemoryStore) : MemoryStore := performAll p.entries s

theorem performAll_append (entries entries' : List (ObjectKey × Action K)) (s : MemoryStore) :
    performAll (entries ++ entries') s = performAll entries' (performAll entries s) :=
  List.foldl_append

theorem performAll_map {ι : Type} (keyOf : ι → ObjectKey) (action : ι → Action K) (xs : List ι)
    (s : MemoryStore) :
    performAll (xs.map fun x => (keyOf x, action x)) s
      = xs.foldl (fun s x => (action x).perform (keyOf x) s) s :=
  List.foldl_map

/-! ## What a plan leaves alone -/

theorem performAll_preserves {β : Type} {f : MemoryStore → β}
    (step : ∀ (a : Action K) (key : ObjectKey), a.Fits key → ∀ s, f (a.perform key s) = f s)
    {entries : List (ObjectKey × Action K)} (fits : ∀ e ∈ entries, e.2.Fits e.1)
    (s : MemoryStore) : f (performAll entries s) = f s := by
  induction entries generalizing s with
  | nil => rfl
  | cons e entries ih =>
      have hhead := step e.2 e.1 (fits e (List.mem_cons_self ..)) s
      have htail := ih (fun x hx => fits x (List.mem_cons_of_mem _ hx)) (e.2.perform e.1 s)
      exact htail.trans hhead

/-- A plan keeps what depends neither on the table of its kind nor on the revision. -/
theorem run_keeps {β : Type} {f : MemoryStore → β}
    (hf : ∀ (table : Table K) (s : MemoryStore) (n : Nat),
      f (Stored.setTable table { s with revision := n }) = f s)
    (p : Plan K) (s : MemoryStore) : f (p.run s) = f s :=
  performAll_preserves (fun _ _ ha s => Action.perform_keeps hf ha s) p.fits s

theorem rejections_run (p : Plan K) (s : MemoryStore) : (p.run s).rejections = s.rejections :=
  p.run_keeps (f := (·.rejections)) (fun _ _ _ => Stored.rejections_setTable ..) s

theorem rejects_run (p : Plan K) (s : MemoryStore) (verb : Verb) (name : String) :
    (p.run s).rejects verb name = s.rejects verb name := by
  rw [MemoryStore.rejects, rejections_run, MemoryStore.rejects]

theorem claims_run (p : Plan Pod) (s : MemoryStore) : (p.run s).claims = s.claims :=
  p.run_keeps (f := (·.claims)) (fun _ _ _ => rfl) s

theorem pods_run (p : Plan Claim) (s : MemoryStore) : (p.run s).pods = s.pods :=
  p.run_keeps (f := (·.pods)) (fun _ _ _ => rfl) s

theorem fetch?_performAll_of_notMem {entries : List (ObjectKey × Action K)} {key : ObjectKey}
    (fits : ∀ e ∈ entries, e.2.Fits e.1) (h : key ∉ entries.map (·.1)) (s : MemoryStore) :
    (performAll entries s).fetch? K key = s.fetch? K key := by
  induction entries generalizing s with
  | nil => rfl
  | cons e entries ih =>
      rw [List.map_cons, List.mem_cons, not_or] at h
      have hhead := fits e (List.mem_cons_self ..)
      have hrest := ih (fun x hx => fits x (List.mem_cons_of_mem _ hx)) h.2 (e.2.perform e.1 s)
      rw [performAll, List.foldl_cons, ← performAll, hrest, Action.fetch?_perform hhead, if_neg h.1]

theorem fetch?_run_of_notMem (p : Plan K) {key : ObjectKey} (h : key ∉ p.entries.map (·.1))
    (s : MemoryStore) : (p.run s).fetch? K key = s.fetch? K key :=
  fetch?_performAll_of_notMem p.fits h s

/-! ## What a plan does -/

theorem fetch?_performAll {entries : List (ObjectKey × Action K)} {key : ObjectKey} {a : Action K}
    (nodup : (entries.map (·.1)).Nodup) (fits : ∀ e ∈ entries, e.2.Fits e.1)
    (h : (key, a) ∈ entries) (s : MemoryStore) :
    ∃ stamp, (performAll entries s).fetch? K key
      = a.leaves (s.rejects · key.name) stamp (s.fetch? K key) := by
  induction entries generalizing s with
  | nil => exact absurd h List.not_mem_nil
  | cons e entries ih =>
      have hhead := fits e (List.mem_cons_self ..)
      have htail : ∀ x ∈ entries, x.2.Fits x.1 := fun x hx => fits x (List.mem_cons_of_mem _ hx)
      rw [List.map_cons, List.nodup_cons] at nodup
      rw [performAll, List.foldl_cons, ← performAll]
      rcases List.mem_cons.1 h with rfl | h
      · -- the first call is the one at this key, and none is made there later
        refine ⟨s.nextStamp, ?_⟩
        rw [fetch?_performAll_of_notMem htail nodup.1, Action.fetch?_perform hhead, if_pos rfl]
      · -- the first call is made at another key, so it finds here what was there before
        obtain ⟨stamp, hn⟩ := ih nodup.2 htail h (e.2.perform e.1 s)
        have hne : key ≠ e.1 := fun heq => nodup.1 (heq ▸ List.mem_map_of_mem h)
        refine ⟨stamp, hn.trans ?_⟩
        rw [Action.fetch?_perform hhead, if_neg hne]
        simp only [Action.rejects_perform hhead]

/-- What a plan leaves at a key is what its call there leaves of what was there at the beginning. -/
theorem fetch?_run (p : Plan K) {key : ObjectKey} {a : Action K} (h : (key, a) ∈ p.entries)
    (s : MemoryStore) :
    ∃ stamp, (p.run s).fetch? K key = a.leaves (s.rejects · key.name) stamp (s.fetch? K key) :=
  fetch?_performAll p.nodup p.fits h s

/-- A plan of idle calls leaves the whole store as it is. -/
theorem run_of_idle (p : Plan K) {s : MemoryStore}
    (h : ∀ e ∈ p.entries, e.2.Idle (s.rejects · e.1.name) (s.fetch? K e.1)) : p.run s = s := by
  have fits := p.fits
  unfold run
  revert h fits
  induction p.entries with
  | nil => exact fun _ _ => rfl
  | cons e entries ih =>
      intro h fits
      have hhead := Action.perform_of_idle (fits e (List.mem_cons_self ..))
        (h e (List.mem_cons_self ..))
      rw [performAll, List.foldl_cons, hhead]
      exact ih (fun x hx => h x (List.mem_cons_of_mem _ hx))
        fun x hx => fits x (List.mem_cons_of_mem _ hx)

end Plan

end TabletFleet
