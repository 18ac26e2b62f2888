import TabletFleet.Proofs.Store.Action

set_option autoImplicit false

/-! # Stores alike but for stamps

The store stamps what is written to it: with the number of the write, and with a uid if it is new. Calls
do not depend on these stamps. So the same call on two stores that are alike otherwise gives answers that
are alike, and leaves the stores alike (`MemoryStore.AlikeOn`). It is enough that they are alike at those
keys at which calls are made. -/

namespace TabletFleet

open ManagedObject (metadata mapMetadata written key?)

/-! ## Objects without stamps -/

section Stamps

variable {K : Type} [ManagedObject K]

/-- The object without its version. -/
def unversioned (object : K) : K := mapMetadata (fun m => { m with resourceVersion := none }) object

/-- The object without its version and its uid. -/
def unstamped (object : K) : K :=
  mapMetadata (fun m => { m with uid := none, resourceVersion := none }) object

theorem unversioned_eq_of_uid {a b : K} (h : unstamped a = unstamped b)
    (huid : (metadata a).uid = (metadata b).uid) : unversioned a = unversioned b := by
  have hrestored : ∀ object : K, unversioned object =
      mapMetadata (fun m => { m with uid := (metadata object).uid }) (unstamped object) := by
    intro object
    simp only [unversioned, unstamped, mapMetadata, ManagedObject.metadata_setMetadata,
      ManagedObject.setMetadata_setMetadata]
  rw [hrestored a, hrestored b, h, huid]

theorem map_unversioned_eq_of_uid {a b : Option K} (h : a.map unstamped = b.map unstamped)
    (huid : ∀ x y, a = some x → b = some y → (metadata x).uid = (metadata y).uid) :
    a.map unversioned = b.map unversioned := by
  cases a with
  | none =>
      cases b with
      | none => rfl
      | some y => cases h
  | some x =>
      cases b with
      | none => cases h
      | some y =>
          have hobject := unversioned_eq_of_uid (Option.some.inj h) (huid x y rfl rfl)
          rw [Option.map_some, Option.map_some, hobject]

theorem unstamped_stampedAs (stamp : Stamp) (isNew : Bool) (object : K) :
    unstamped (stampedAs stamp isNew object) = unstamped object := by
  simp only [unstamped, stampedAs, mapMetadata,
    ManagedObject.metadata_setMetadata, ManagedObject.setMetadata_setMetadata]

/-- Objects are written in the same way whatever their stamps are. -/
theorem unstamped_written (object : K) : unstamped (written object) = written (unstamped object) := by
  simp only [unstamped, mapMetadata, ManagedObject.written_setMetadata, ManagedObject.metadata_written,
    ObjectMeta.wholeSeconds]

theorem unstamped_storedAs (stamp : Stamp) (isNew : Bool) (object : K) :
    unstamped (storedAs stamp isNew object) = written (unstamped object) := by
  rw [storedAs, unstamped_written, unstamped_stampedAs]

end Stamps

section Written

variable {K : Type} [Stored K]

/-- What a call leaves does not depend on the stamps of what it finds, nor on the number of writes. -/
theorem Action.unstamped_leaves (a : Action K) (rejects : Verb → Bool) (stamp stamp' : Stamp)
    {stored stored' : Option K} (h : stored.map unstamped = stored'.map unstamped) :
    (a.leaves rejects stamp stored).map unstamped = (a.leaves rejects stamp' stored').map unstamped := by
  have hsome : stored.isSome = stored'.isSome := by
    have hmapped := congrArg Option.isSome h
    rwa [Option.isSome_map, Option.isSome_map] at hmapped
  cases a with
  | rest => exact h
  | create object =>
      simp only [leaves, hsome]
      split
      · exact h
      · rw [Option.map_some, Option.map_some, unstamped_storedAs, unstamped_storedAs]
  | update object =>
      simp only [leaves]
      split
      · exact h
      · cases stored with
        | none =>
            rw [Option.isSome_none, Eq.comm, Option.isSome_eq_false_iff, Option.isNone_iff_eq_none]
              at hsome
            rw [hsome]
            rfl
        | some current =>
            rw [Option.isSome_some, Eq.comm] at hsome
            obtain ⟨current', rfl⟩ := Option.isSome_iff_exists.1 hsome
            rw [Option.map_some, Option.map_some, Option.map_some, Option.map_some,
              unstamped_storedAs, unstamped_storedAs]
  | delete =>
      simp only [leaves]
      split
      · exact h
      · rfl

end Written

/-! ## Stores alike -/

namespace MemoryStore

/-- The same calls are rejected, and what is stored at the given keys is the same but for stamps. -/
structure AlikeOn (keys : List ObjectKey) (s s' : MemoryStore) : Prop where
  rejections : s'.rejections = s.rejections
  pods : ∀ key ∈ keys, (s.fetch? Pod key).map unstamped = (s'.fetch? Pod key).map unstamped
  claims : ∀ key ∈ keys, (s.fetch? Claim key).map unstamped = (s'.fetch? Claim key).map unstamped

theorem AlikeOn.rejects {keys : List ObjectKey} {s s' : MemoryStore} (h : s.AlikeOn keys s')
    (verb : Verb) (name : String) : s'.rejects verb name = s.rejects verb name := by
  rw [MemoryStore.rejects, h.rejections, MemoryStore.rejects]

end MemoryStore

/-- A kind that stores are compared by: calls on its objects keep stores alike. -/
class Compared (K : Type) [Stored K] : Prop where
  fetched : ∀ {keys : List ObjectKey} {s s' : MemoryStore}, s.AlikeOn keys s' →
    ∀ key ∈ keys, (s.fetch? K key).map unstamped = (s'.fetch? K key).map unstamped
  performed : ∀ {keys : List ObjectKey} {s s' : MemoryStore}, s.AlikeOn keys s' →
    ∀ {a : Action K} {key : ObjectKey}, a.Fits key → key ∈ keys →
      (a.perform key s).AlikeOn keys (a.perform key s')

section Kinds

variable {K : Type} [Stored K] {keys : List ObjectKey} {s s' : MemoryStore}

/-- Of the kind that a call is about, the call leaves alike what was alike. -/
theorem Action.unstamped_fetch?_perform {a : Action K} {key : ObjectKey} (ha : a.Fits key)
    (hrejections : s'.rejections = s.rejections)
    (h : ∀ k ∈ keys, (s.fetch? K k).map unstamped = (s'.fetch? K k).map unstamped)
    (hkey : key ∈ keys) : ∀ k ∈ keys,
      ((a.perform key s).fetch? K k).map unstamped
        = ((a.perform key s').fetch? K k).map unstamped := by
  intro k hk
  have hrejects : (s'.rejects · key.name) = (s.rejects · key.name) := by
    funext verb
    rw [MemoryStore.rejects, hrejections, MemoryStore.rejects]
  rw [fetch?_perform ha, fetch?_perform ha, hrejects]
  split
  · exact a.unstamped_leaves _ _ _ (h key hkey)
  · exact h k hk

end Kinds

instance : Compared Pod where
  fetched h := h.pods
  performed h _ _ ha hkey := {
    rejections := by rw [Action.rejections_perform ha, Action.rejections_perform ha, h.rejections]
    pods := Action.unstamped_fetch?_perform ha h.rejections h.pods hkey
    claims := by
      simp only [MemoryStore.fetch?, Stored.table, Action.claims_perform ha]
      exact h.claims }

instance : Compared Claim where
  fetched h := h.claims
  performed h _ _ ha hkey := {
    rejections := by rw [Action.rejections_perform ha, Action.rejections_perform ha, h.rejections]
    pods := by
      simp only [MemoryStore.fetch?, Stored.table, Action.pods_perform ha]
      exact h.pods
    claims := Action.unstamped_fetch?_perform ha h.rejections h.claims hkey }

/-! ## Answers alike -/

/-- Both calls fail for the same reason, or both answer an object, the same one but for stamps. -/
inductive AnswersAlike {K : Type} [ManagedObject K] :
    Except StoreError K → Except StoreError K → Prop where
  | ok {a b : K} (h : unstamped a = unstamped b) : AnswersAlike (.ok a) (.ok b)
  | error (e : StoreError) : AnswersAlike (.error e) (.error e)

namespace MemoryStore

variable {K : Type} [Stored K] [Compared K] {keys : List ObjectKey} {s s' : MemoryStore}
variable {key : ObjectKey} {object : K}

theorem AlikeOn.isSome_fetch? (h : s.AlikeOn keys s') (hkey : key ∈ keys) :
    (s'.fetch? K key).isSome = (s.fetch? K key).isSome := by
  have hmapped := congrArg Option.isSome (Compared.fetched h key hkey (K := K))
  rw [Option.isSome_map, Option.isSome_map] at hmapped
  exact hmapped.symm

theorem create_alike (h : s.AlikeOn keys s') (hkey : key ∈ keys) (hobject : key? object = some key) :
    AnswersAlike ((calls K).create object s).1 ((calls K).create object s').1 := by
  rw [calls_create_apply s key object hobject, calls_create_apply s' key object hobject, h.rejects,
    h.isSome_fetch? (K := K) hkey]
  split
  · exact .error _
  · split
    · exact .error _
    · refine .ok ?_
      simp only [write, unstamped_stampedAs]

theorem update_alike (h : s.AlikeOn keys s') (hkey : key ∈ keys) (hobject : key? object = some key) :
    AnswersAlike ((calls K).update object s).1 ((calls K).update object s').1 := by
  rw [calls_update_apply s key object hobject, calls_update_apply s' key object hobject, h.rejects,
    h.isSome_fetch? (K := K) hkey]
  split
  · exact .error _
  · split
    · refine .ok ?_
      simp only [write, unstamped_stampedAs]
    · exact .error _

omit [Compared K] in
theorem delete_alike (h : s.AlikeOn keys s') (key : ObjectKey) :
    ((calls K).delete key s).1 = ((calls K).delete key s').1 := by
  rw [calls_delete_apply, calls_delete_apply, h.rejects]
  split <;> rfl

end MemoryStore

end TabletFleet
