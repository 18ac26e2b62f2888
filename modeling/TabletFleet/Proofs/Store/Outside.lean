import TabletFleet.Proofs.Store.Action

set_option autoImplicit false

/-! # Changes from outside

What others than a pass do to the objects of a memory store: the cluster reports on them, agents and
people change them or take them away. No such change is rejected, and none moves an object to another
key. -/

namespace TabletFleet.MemoryStore

open ManagedObject (key?)

variable {K : Type} [Stored K]

/-- Change the object at a key, if there is one. A change that would move it is not made. -/
def edit (K : Type) [Stored K] (s : MemoryStore) (key : ObjectKey) (f : K → K) : MemoryStore :=
  match s.fetch? K key with
  | none => s
  | some object =>
    if h : key? (f object) = some key then (s.write true key (f object) h).2 else s

/-- Take the object at a key away. -/
def remove (K : Type) [Stored K] (s : MemoryStore) (key : ObjectKey) : MemoryStore :=
  Stored.setTable ((Stored.table (K := K) s).erase key) s

/-! ## What is stored afterwards -/

/-- A change that leaves the key is made, and nothing else. -/
theorem fetch?_edit {f : K → K} (hf : ∀ object, key? (f object) = key? object) (s : MemoryStore)
    (key key' : ObjectKey) :
    (s.edit K key f).fetch? K key' =
      if key' = key then (s.fetch? K key).map fun object => storedAs s.nextStamp true (f object)
      else s.fetch? K key' := by
  unfold edit
  cases hobject : s.fetch? K key with
  | none =>
      by_cases hk : key' = key
      · rw [if_pos hk, hk, hobject]
        rfl
      · rw [if_neg hk]
  | some object =>
      have hkey : key? (f object) = some key := (hf object).trans ((Stored.table s).keyed hobject)
      simp only [dif_pos hkey, Option.map_some]
      exact fetch?_write s true key key' (f object) hkey

theorem fetch?_remove (s : MemoryStore) (key key' : ObjectKey) :
    (s.remove K key).fetch? K key' = if key' = key then none else s.fetch? K key' := by
  rw [remove, fetch?, Stored.table_setTable, Table.get?_erase, fetch?]

/-! ## What stays as it was -/

/-- A change at most replaces the table of its kind and raises the revision. -/
theorem edit_cases (s : MemoryStore) (key : ObjectKey) (f : K → K) :
    s.edit K key f = s ∨
      ∃ table n, s.edit K key f = Stored.setTable (K := K) table { s with revision := n } := by
  unfold edit
  split
  · exact .inl rfl
  · split
    · exact .inr ⟨_, _, rfl⟩
    · exact .inl rfl

theorem claims_edit (s : MemoryStore) (key : ObjectKey) (f : Pod → Pod) :
    (s.edit Pod key f).claims = s.claims := by
  obtain h | ⟨table, n, h⟩ := edit_cases s key f
  · rw [h]
  · rw [h]
    rfl

theorem pods_edit (s : MemoryStore) (key : ObjectKey) (f : Claim → Claim) :
    (s.edit Claim key f).pods = s.pods := by
  obtain h | ⟨table, n, h⟩ := edit_cases s key f
  · rw [h]
  · rw [h]
    rfl

end TabletFleet.MemoryStore
