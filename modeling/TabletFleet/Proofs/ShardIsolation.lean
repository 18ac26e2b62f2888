import TabletFleet.Proofs.Pass.Selection

set_option autoImplicit false

/-! # Isolation of shards

A pass writes to keys, but what belongs to a shard is told by labels. Nevertheless it leaves everything
alone that is not the shard's own, even at the keys of its tablets, and everything that it adds is found
to be the shard's own by the next pass: whatever labels and annotations the pools ask for. -/

namespace TabletFleet

namespace Shard

/-- How the objects of one kind, desired at the given keys, are changed for a shard: those of others are
as before, and its own are listed for it, the new ones at desired keys. -/
structure Isolates (K : Type) [Stored K] (shard : Shard) (keys : List ObjectKey)
    (before after : MemoryStore) : Prop where
  others : ∀ key object, before.fetch? K key = some object →
    (ManagedObject.metadata object).isListed shard.ns shard.labels = false →
      after.fetch? K key = some object
  added : ∀ key object, before.fetch? K key = none → after.fetch? K key = some object →
    key ∈ keys ∧ (ManagedObject.metadata object).isListed shard.ns shard.labels = true ∧
      object ∈ after.list K shard.ns shard.labels
  remaining : ∀ key object object', before.fetch? K key = some object →
    (ManagedObject.metadata object).isListed shard.ns shard.labels = true →
      after.fetch? K key = some object' → object' ∈ after.list K shard.ns shard.labels

section Kinds

variable {K : Type} [Stored K] {shard : Shard} {keys : List ObjectKey}
variable {before after : MemoryStore}

theorem mem_list {s : MemoryStore} {key : ObjectKey} {object : K}
    (hstored : s.fetch? K key = some object)
    (hlisted : (ManagedObject.metadata object).isListed shard.ns shard.labels = true) :
    object ∈ s.list K shard.ns shard.labels :=
  List.mem_filter.2 ⟨List.mem_map_of_mem (OrdMap.mem_toList.2 hstored), hlisted⟩

/-- It is enough that no key sees a change of another's object, and that objects are added at desired keys
only. -/
theorem isolates_of_ownChange
    (hown : ∀ key, shard.OwnChange (before.fetch? K key) (after.fetch? K key))
    (hadded : ∀ key object, before.fetch? K key = none → after.fetch? K key = some object →
      key ∈ keys) : Isolates K shard keys before after where
  others key object hbefore hforeign := by
    rcases hown key with hsame | ⟨hlisted, -⟩
    · rw [hsame, hbefore]
    · have hlisted := hlisted object hbefore
      rw [hforeign] at hlisted
      cases hlisted
  added key object hbefore hafter := by
    rcases hown key with hsame | ⟨-, hlisted⟩
    · rw [hsame, hbefore] at hafter
      cases hafter
    · have hlisted := hlisted object hafter
      exact ⟨hadded key object hbefore hafter, hlisted, mem_list hafter hlisted⟩
  remaining key object object' hbefore hlisted hafter := by
    refine mem_list hafter ?_
    rcases hown key with hsame | ⟨-, hlisted'⟩
    · rw [hsame, hbefore] at hafter
      obtain rfl := Option.some.inj hafter
      exact hlisted
    · exact hlisted' object' hafter

end Kinds

section Pass

variable {shard : Shard} {topology : Topology} {config : PassConfig} {now : Timestamp}
variable {w : MemoryStore} {key : ObjectKey}

theorem mem_keys_of_added {p : Pod} (hbefore : w.fetch? Pod key = none)
    (hafter : (shard.afterPass topology config now w).fetch? Pod key = some p) :
    key ∈ shard.keys := by
  have horigin := podOrigin hafter
  rw [hbefore] at horigin
  cases horigin with
  | kept _ before => cases before
  | created t n desired => exact (isSome_byKey shard key).1 (by rw [desired, Option.isSome_some])
  | updated t p f n desired before => cases before
  | drained p n unwanted before => cases before

theorem mem_claimKeys_of_added {c : Claim} (hbefore : w.fetch? Claim key = none)
    (hafter : (shard.afterPass topology config now w).fetch? Claim key = some c) :
    key ∈ shard.claimKeys := by
  have horigin := claimOrigin hafter
  rw [hbefore] at horigin
  cases horigin with
  | kept _ before => cases before
  | created t c n desired => exact desired
  | updated t c n tablet before => cases before

end Pass

/-- *Isolation.* After a pass over a shard, every object that was not its own is as it was, with its
version; what is new is its own, at a desired key, and would be listed by the next pass, as would what
was its own before. -/
theorem shard_isolated (shard : Shard) (topology : Topology) (config : PassConfig)
    (now : Timestamp) (w : MemoryStore) :
    let after := shard.afterPass topology config now w
    Isolates Pod shard shard.keys w after ∧ Isolates Claim shard shard.claimKeys w after ∧
      after.configMaps = w.configMaps := by
  have hpods : Isolates Pod shard shard.keys w (shard.afterPass topology config now w) :=
    isolates_of_ownChange (pod_ownChange topology config now w)
      fun _ _ hbefore hafter => mem_keys_of_added hbefore hafter
  have hclaims : Isolates Claim shard shard.claimKeys w (shard.afterPass topology config now w) :=
    isolates_of_ownChange (claim_ownChange topology config now w)
      fun _ _ hbefore hafter => mem_claimKeys_of_added hbefore hafter
  exact ⟨hpods, hclaims, shard.configMaps_afterPass topology config now w⟩

/-- A pod at the key of the small shard's first tablet that carries none of its labels, and the new pod of
its second tablet. -/
def strayStored : MemoryStore :=
  .ofPods [{ metadata := {
    name := some (sampleKey sampleFirst).name
    ns := some (sampleKey sampleFirst).ns } }]
def strayPod : Pod := (strayStored.fetch? Pod (sampleKey sampleFirst)).getD default
def secondPod : Pod :=
  (((sample 2).afterPass .sample {} .sample strayStored).fetch? Pod
    (sampleKey sampleSecond)).getD default

/-- The stray pod is left alone, and the one that is created is listed. -/
theorem stray_pod_left_alone :
    let after := (sample 2).afterPass .sample {} .sample strayStored
    after.fetch? Pod (sampleKey sampleFirst) = some strayPod ∧
      secondPod ∈ after.list Pod (sample 2).ns (sample 2).labels := by
  obtain ⟨hpods, -, -⟩ := shard_isolated (sample 2) .sample {} .sample strayStored
  have hadded : ((sample 2).afterPass .sample {} .sample strayStored).fetch? Pod
      (sampleKey sampleSecond) = some secondPod := by decide +kernel
  exact ⟨hpods.others _ _ (by decide +kernel) (by decide +kernel),
    (hpods.added _ _ (by decide +kernel) hadded).2.2⟩

end Shard

end TabletFleet
