import TabletFleet.Store.Memory

set_option autoImplicit false

/-! # Single calls on the memory store

What one call does to a memory store, told by lookups: at the key that it concerns (`Action.leaves`),
and nowhere else. A call that fails does nothing at all. -/

namespace TabletFleet

open ManagedObject (metadata key? written)

/-! ## Actions -/

/-- What is asked of the store for one object. -/
inductive Action (K : Type) where
  /-- Nothing. -/
  | rest
  | create (object : K)
  | update (object : K)
  | delete

namespace Action

variable {K : Type}

/-- Write the next state of an object, if it differs from the current one. -/
def replace [DecidableEq K] (current next : K) : Action K :=
  if next = current then .rest else .update next

/-- Whether the call is a deletion. -/
instance (a : Action K) : Decidable (a = .delete) :=
  match a with
  | .rest => isFalse nofun
  | .create _ => isFalse nofun
  | .update _ => isFalse nofun
  | .delete => isTrue rfl

/-- Only objects of the given key are written. -/
def Fits [ManagedObject K] (key : ObjectKey) : Action K → Prop
  | .create object | .update object => key? object = some key
  | _ => True

variable [Stored K]

/-- The store after the call. -/
def perform (a : Action K) (key : ObjectKey) (s : MemoryStore) : MemoryStore :=
  match a with
  | .rest => s
  | .create object => ((MemoryStore.calls K).create object s).2
  | .update object => ((MemoryStore.calls K).update object s).2
  | .delete => ((MemoryStore.calls K).delete key s).2

/-- What the call leaves at its key, of what is stored there, if the calls of some kinds are rejected
and `n` writes were made before. -/
def leaves (a : Action K) (rejects : Verb → Bool) (stamp : Stamp) (stored : Option K) : Option K :=
  match a with
  | .rest => stored
  | .create object =>
    if rejects .create || stored.isSome then stored else some (storedAs stamp true object)
  | .update object => if rejects .update then stored else stored.map fun _ => storedAs stamp false object
  | .delete => if rejects .delete then stored else none

end Action

/-! ## What calls do -/

namespace MemoryStore

variable {K : Type} [Stored K]

theorem fetch?_write (s : MemoryStore) (isNew : Bool) (key key' : ObjectKey) (object : K)
    (h : key? object = some key) :
    (s.write isNew key object h).2.fetch? K key'
      = if key' = key then some (storedAs s.nextStamp isNew object) else s.fetch? K key' := by
  simp only [write, fetch?, Stored.table_setTable, Table.get?_put, storedAs]

theorem calls_create_apply (s : MemoryStore) (key : ObjectKey) (object : K)
    (h : key? object = some key) :
    (calls K).create object s =
      if s.rejects .create key.name then
        (.error (.rejected .create (ManagedObject.kind K) key), s)
      else if (s.fetch? K key).isSome then
        (.error (.alreadyExists (ManagedObject.kind K) key), s)
      else (.ok (s.write true key object h).1, (s.write true key object h).2) := by
  have hcreate : s.create object =
      if s.rejects .create key.name then .error (.rejected .create (ManagedObject.kind K) key)
      else if (s.fetch? K key).isSome then .error (.alreadyExists (ManagedObject.kind K) key)
      else .ok (s.write true key object h) := by
    unfold create
    split
    · next hnone => rw [h] at hnone; cases hnone
    · next key' hkey =>
        obtain rfl : key = key' := Option.some.inj (h.symm.trans hkey)
        rw [rejection?_eq]
        by_cases hr : s.rejects .create key.name = true
        · simp [hr]
        · cases hf : s.fetch? K key <;> simp [hr]
  simp only [calls, attempt, hcreate]
  by_cases hr : s.rejects .create key.name = true
  · simp only [hr, if_true]
  · by_cases hf : (s.fetch? K key).isSome = true <;>
      simp only [hr, hf, if_true, Bool.false_eq_true, if_false]

theorem calls_update_apply (s : MemoryStore) (key : ObjectKey) (object : K)
    (h : key? object = some key) :
    (calls K).update object s =
      if s.rejects .update key.name then
        (.error (.rejected .update (ManagedObject.kind K) key), s)
      else if (s.fetch? K key).isSome then
        (.ok (s.write false key object h).1, (s.write false key object h).2)
      else (.error (.notFound (ManagedObject.kind K) key), s) := by
  have hupdate : s.update object =
      if s.rejects .update key.name then .error (.rejected .update (ManagedObject.kind K) key)
      else if (s.fetch? K key).isSome then .ok (s.write false key object h)
      else .error (.notFound (ManagedObject.kind K) key) := by
    unfold update
    split
    · next hnone => rw [h] at hnone; cases hnone
    · next key' hkey =>
        obtain rfl : key = key' := Option.some.inj (h.symm.trans hkey)
        rw [rejection?_eq]
        by_cases hr : s.rejects .update key.name = true
        · simp [hr]
        · cases hf : s.fetch? K key <;> simp [hr]
  simp only [calls, attempt, hupdate]
  by_cases hr : s.rejects .update key.name = true
  · simp only [hr, if_true]
  · by_cases hf : (s.fetch? K key).isSome = true <;>
      simp only [hr, hf, if_true, Bool.false_eq_true, if_false]

theorem calls_delete_apply (s : MemoryStore) (key : ObjectKey) :
    (calls K).delete key s =
      if s.rejects .delete key.name then
        (.error (.rejected .delete (ManagedObject.kind K) key), s)
      else (.ok (), Stored.setTable ((Stored.table (K := K) s).erase key) s) := by
  by_cases hr : s.rejects .delete key.name = true <;>
    simp [calls, attempt, delete, rejection?_eq, hr, Except.map]

/-- A successful creation answers the new object as it was stamped. -/
theorem create_answer {s : MemoryStore} {key : ObjectKey} {object answer : K}
    (h : key? object = some key) (hok : ((calls K).create object s).1 = .ok answer) :
    answer = stampedAs s.nextStamp true object := by
  rw [calls_create_apply s key object h] at hok
  split at hok
  · cases hok
  · split at hok
    · cases hok
    · exact (Except.ok.inj hok).symm

/-- A successful update answers the new state as it was stamped. -/
theorem update_answer {s : MemoryStore} {key : ObjectKey} {object answer : K}
    (h : key? object = some key) (hok : ((calls K).update object s).1 = .ok answer) :
    answer = stampedAs s.nextStamp false object := by
  rw [calls_update_apply s key object h] at hok
  split at hok
  · cases hok
  · split at hok
    · exact (Except.ok.inj hok).symm
    · cases hok

end MemoryStore

namespace Action

variable {K : Type} [Stored K]

omit [Stored K] in
theorem replace_fits [ManagedObject K] [DecidableEq K] {key : ObjectKey} {current next : K}
    (h : key? next = some key) : (replace current next).Fits key := by
  rw [replace]
  split
  · trivial
  · exact h

/-- A call changes what is stored at its own key, and nothing else of its kind. -/
theorem fetch?_perform {a : Action K} {key : ObjectKey} (ha : a.Fits key) (s : MemoryStore)
    (key' : ObjectKey) :
    (a.perform key s).fetch? K key'
      = if key' = key then a.leaves (s.rejects · key.name) s.nextStamp (s.fetch? K key)
        else s.fetch? K key' := by
  cases a with
  | rest => by_cases hk : key' = key <;> simp [perform, leaves, hk]
  | create object =>
      have hkey : key? object = some key := ha
      simp only [perform, leaves, MemoryStore.calls_create_apply s key object hkey]
      by_cases hr : s.rejects .create key.name = true
      · by_cases hk : key' = key <;> simp [hr, hk]
      · by_cases hf : (s.fetch? K key).isSome = true
        · by_cases hk : key' = key <;> simp [hr, hf, hk]
        · have hfree : (s.rejects .create key.name || (s.fetch? K key).isSome) = false := by
            simp [hr, hf]
          rw [if_neg hr, if_neg hf, hfree]
          exact MemoryStore.fetch?_write s true key key' object hkey
  | update object =>
      have hkey : key? object = some key := ha
      simp only [perform, leaves, MemoryStore.calls_update_apply s key object hkey]
      by_cases hr : s.rejects .update key.name = true
      · by_cases hk : key' = key <;> simp [hr, hk]
      · cases hf : s.fetch? K key with
        | none => by_cases hk : key' = key <;> simp [hr, hf, hk]
        | some stored =>
            rw [if_neg hr, if_pos Option.isSome_some, if_neg hr, Option.map_some]
            exact MemoryStore.fetch?_write s false key key' object hkey
  | delete =>
      simp only [perform, leaves, MemoryStore.calls_delete_apply]
      by_cases hr : s.rejects .delete key.name = true
      · by_cases hk : key' = key <;> simp [hr, hk]
      · simp [hr, MemoryStore.fetch?, Stored.table_setTable]

/-- What is stored is removed by a deletion that is not rejected, and by nothing else. -/
theorem leaves_eq_none_iff (a : Action K) (rejects : Verb → Bool) (stamp : Stamp) (object : K) :
    a.leaves rejects stamp (some object) = none ↔ a = .delete ∧ rejects .delete = false := by
  cases a with
  | rest => simp [leaves]
  | create new => simp [leaves]
  | update next =>
      simp only [leaves, Option.map_some]
      split <;> simp
  | delete =>
      simp only [leaves]
      by_cases hr : rejects .delete = true <;> simp [hr]

/-- What is stored after a call was there before, or is what the call wrote. -/
theorem leaves_cases {a : Action K} {rejects : Verb → Bool} {stamp : Stamp} {stored : Option K} {after : K}
    (h : a.leaves rejects stamp stored = some after) :
    stored = some after ∨
      (∃ object, a = .create object ∧ rejects .create = false ∧ stored = none ∧
        after = storedAs stamp true object) ∨
      (∃ object, a = .update object ∧ stored.isSome = true ∧ after = storedAs stamp false object) := by
  cases a with
  | rest => exact .inl h
  | create object =>
      simp only [leaves] at h
      split at h
      · exact .inl h
      · next hfree =>
          rw [Bool.or_eq_true, not_or, Bool.not_eq_true, Option.not_isSome_iff_eq_none] at hfree
          exact .inr (.inl ⟨object, rfl, hfree.1, hfree.2, (Option.some.inj h).symm⟩)
  | update object =>
      simp only [leaves] at h
      split at h
      · exact .inl h
      · obtain ⟨before, hbefore, hafter⟩ := Option.map_eq_some_iff.1 h
        exact .inr (.inr ⟨object, rfl, by rw [hbefore]; rfl, hafter.symm⟩)
  | delete =>
      simp only [leaves] at h
      split at h
      · exact .inl h
      · cases h

omit [Stored K] in
theorem replace_eq_update [DecidableEq K] {current next object : K}
    (h : replace current next = .update object) : object = next := by
  unfold replace at h
  split at h
  · cases h
  · exact (Action.update.inj h).symm

omit [Stored K] in
theorem replace_ne_delete [DecidableEq K] (current next : K) : replace current next ≠ .delete := by
  unfold replace
  split <;> simp

/-- An object that is to be replaced is what it was, because it need not or must not change, or is the
next one. -/
theorem leaves_replace_cases [DecidableEq K] {current next after : K} {rejects : Verb → Bool}
    {stamp : Stamp} (h : (replace current next).leaves rejects stamp (some current) = some after) :
    (after = current ∧ (next = current ∨ rejects .update = true)) ∨ after = storedAs stamp false next := by
  unfold replace at h
  split at h
  · next hsame => exact .inl ⟨(Option.some.inj h).symm, .inl hsame⟩
  · rw [leaves] at h
    split at h
    · next hrejected => exact .inl ⟨(Option.some.inj h).symm, .inr hrejected⟩
    · exact .inr (Option.some.inj h).symm

/-- An object that may be replaced is the next one afterwards, as it is or as it was stored. -/
theorem leaves_replace_of_allowed [DecidableEq K] (rejects : Verb → Bool)
    (h : rejects .update = false) (current next : K) (stamp : Stamp) :
    ∃ after, (replace current next).leaves rejects stamp (some current) = some after ∧
      (after = next ∨ after = storedAs stamp false next) := by
  unfold replace
  split
  · next hsame => exact ⟨current, rfl, .inl hsame.symm⟩
  · refine ⟨storedAs stamp false next, ?_, .inr rfl⟩
    rw [leaves, h]
    rfl

/-- A call that does not delete leaves an object where there is one. -/
theorem isSome_leaves {a : Action K} (ha : a ≠ .delete) (rejects : Verb → Bool) (stamp : Stamp)
    {stored : Option K} (h : stored.isSome = true) : (a.leaves rejects stamp stored).isSome = true := by
  obtain ⟨object, rfl⟩ := Option.isSome_iff_exists.1 h
  rw [← Option.ne_none_iff_isSome, ne_eq, leaves_eq_none_iff]
  exact fun hdeleted => ha hdeleted.1

/-- A call at most replaces the table of its kind and raises the revision. -/
theorem perform_cases {a : Action K} {key : ObjectKey} (ha : a.Fits key) (s : MemoryStore) :
    a.perform key s = s ∨
      ∃ table n, a.perform key s = Stored.setTable (K := K) table { s with revision := n } := by
  cases a with
  | rest => exact .inl rfl
  | create object =>
      have hkey : key? object = some key := ha
      simp only [perform, MemoryStore.calls_create_apply s key object hkey]
      split
      · exact .inl rfl
      · split
        · exact .inl rfl
        · exact .inr ⟨_, _, rfl⟩
  | update object =>
      have hkey : key? object = some key := ha
      simp only [perform, MemoryStore.calls_update_apply s key object hkey]
      split
      · exact .inl rfl
      · split
        · exact .inr ⟨_, _, rfl⟩
        · exact .inl rfl
  | delete =>
      simp only [perform, MemoryStore.calls_delete_apply]
      split
      · exact .inl rfl
      · exact .inr ⟨_, s.revision, rfl⟩

/-- A call keeps what depends neither on the table of its kind nor on the revision. -/
theorem perform_keeps {β : Type} {f : MemoryStore → β}
    (hf : ∀ (table : Table K) (s : MemoryStore) (n : Nat),
      f (Stored.setTable table { s with revision := n }) = f s)
    {a : Action K} {key : ObjectKey} (ha : a.Fits key) (s : MemoryStore) :
    f (a.perform key s) = f s := by
  obtain h | ⟨table, n, h⟩ := perform_cases ha s
  · rw [h]
  · rw [h, hf]

theorem rejections_perform {a : Action K} {key : ObjectKey} (ha : a.Fits key) (s : MemoryStore) :
    (a.perform key s).rejections = s.rejections :=
  perform_keeps (f := (·.rejections)) (fun _ _ _ => Stored.rejections_setTable ..) ha s

theorem rejects_perform {a : Action K} {key : ObjectKey} (ha : a.Fits key) (s : MemoryStore)
    (verb : Verb) (name : String) : (a.perform key s).rejects verb name = s.rejects verb name := by
  rw [MemoryStore.rejects, rejections_perform ha, MemoryStore.rejects]

/-! ## Calls without effect -/

/-- The call does nothing to what is stored at its key: there is none, or it fails, or there is nothing
to delete. -/
def Idle (a : Action K) (rejects : Verb → Bool) (stored : Option K) : Prop :=
  match a with
  | .rest => True
  | .create _ => rejects .create = true ∨ stored.isSome = true
  | .update _ => rejects .update = true ∨ stored = none
  | .delete => rejects .delete = true ∨ stored = none

theorem leaves_of_idle {a : Action K} {rejects : Verb → Bool} {stored : Option K}
    (h : a.Idle rejects stored) (stamp : Stamp) : a.leaves rejects stamp stored = stored := by
  cases a with
  | rest => rfl
  | create object =>
      have hidle : (rejects .create || stored.isSome) = true := by
        rw [Bool.or_eq_true]
        exact h
      rw [leaves, if_pos hidle]
  | update object =>
      rw [leaves]
      split
      · rfl
      · next hallowed => rw [h.resolve_left hallowed, Option.map_none]
  | delete =>
      rw [leaves]
      split
      · rfl
      · next hallowed => exact (h.resolve_left hallowed).symm

omit [Stored K] in
theorem idle_replace [DecidableEq K] {current next : K} {rejects : Verb → Bool}
    {stored : Option K} (h : next = current ∨ rejects .update = true) :
    (replace current next).Idle rejects stored := by
  unfold replace
  split
  · trivial
  · next hne => exact .inl (h.resolve_left hne)

/-- An idle call leaves the whole store as it is, its revision included. -/
theorem perform_of_idle {a : Action K} {key : ObjectKey} (ha : a.Fits key) {s : MemoryStore}
    (h : a.Idle (s.rejects · key.name) (s.fetch? K key)) : a.perform key s = s := by
  cases a with
  | rest => rfl
  | create object =>
      have hkey : key? object = some key := ha
      simp only [perform, MemoryStore.calls_create_apply s key object hkey]
      rcases h with h | h
      · rw [if_pos h]
      · rw [if_pos h]
        split <;> rfl
  | update object =>
      have hkey : key? object = some key := ha
      simp only [perform, MemoryStore.calls_update_apply s key object hkey]
      rcases h with h | h
      · rw [if_pos h]
      · rw [h, if_neg (c := (none : Option K).isSome = true) (by simp)]
        split <;> rfl
  | delete =>
      simp only [perform, MemoryStore.calls_delete_apply]
      rcases h with h | h
      · rw [if_pos h]
      · split
        · rfl
        · -- a deletion where nothing is stored succeeds, and changes nothing
          have hsame : (Stored.table (K := K) s).erase key = Stored.table s := by
            refine Table.ext_get? fun key' => ?_
            rw [Table.get?_erase]
            split
            · next hk => rw [hk]; exact h.symm
            · rfl
          rw [hsame, Stored.setTable_table]

end Action

/-! ## The kinds are independent -/

theorem Action.claims_perform {a : Action Pod} {key : ObjectKey} (ha : a.Fits key)
    (s : MemoryStore) : (a.perform key s).claims = s.claims :=
  perform_keeps (f := (·.claims)) (fun _ _ _ => rfl) ha s

theorem Action.pods_perform {a : Action Claim} {key : ObjectKey} (ha : a.Fits key)
    (s : MemoryStore) : (a.perform key s).pods = s.pods :=
  perform_keeps (f := (·.pods)) (fun _ _ _ => rfl) ha s

end TabletFleet
