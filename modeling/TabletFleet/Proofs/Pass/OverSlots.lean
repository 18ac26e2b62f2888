import TabletFleet.Proofs.Pass.TwoRuns
import TabletFleet.Proofs.ShardResource
import TabletFleet.Proofs.Store.TypedView

set_option autoImplicit false

/-! # A pass over a store of slots

Passes are proved to do what they should over the tables of a memory store. Over a store of slots they do the
same: a pass answers alike over both and leaves the slots as the tables view them (`Shard.pass_over_slots`).
All that a pass writes can be read back, since the pods and claims that it makes are put together from parts
that can be, and those that it changes were read before and are changed where it does not matter. -/

namespace TabletFleet

open StateRun

/-! ## What is made -/

namespace TabletSpec

/-- What the tablet takes over from the types of the cluster's API is read as what it was written from. -/
structure Readable (t : TabletSpec) : Prop where
  claim : ∀ c, t.claimTemplate = some c → c.Readable
  affinity : ∀ a, t.affinity = some a → Affinity.ofDocument? a.toJson = some a
  tolerations : ∀ x ∈ t.tolerations, Toleration.ofDocument? x.toJson = some x

variable {t : TabletSpec}

theorem Readable.markResize (h : t.Readable) (claim : Option Claim) : (t.markResize claim).Readable := by
  unfold TabletSpec.markResize
  split
  · exact h
  · exact ⟨h.claim, h.affinity, h.tolerations⟩

theorem volumeMounts_readable (t : TabletSpec) :
    ∀ ms, t.volumeMounts = some ms → ∀ m ∈ ms, m.Readable := by
  intro ms hms m hm
  obtain ⟨template, -, rfl⟩ := Option.map_eq_some_iff.1 hms
  obtain rfl := List.mem_singleton.1 hm
  exact Shape.readFields_empty (by decide) rfl

theorem vttabletProcess_readable (t : TabletSpec) : t.vttabletProcess.Readable where
  ports ps hps p hp := by
    obtain rfl := Option.some.inj hps
    have hextra : p.extra = .empty := by
      rcases List.mem_pair.1 hp with rfl | rfl <;> rfl
    rw [ContainerPort.Readable, hextra]
    exact Shape.readFields_empty (by decide) rfl
  mounts := t.volumeMounts_readable
  extra := Shape.readFields_empty (by decide +kernel) rfl

theorem mysqldProcess?_readable {c : Container} (h : t.mysqldProcess? = some c) : c.Readable := by
  obtain ⟨settings, -, h⟩ := Option.bind_eq_some_iff.1 h
  obtain ⟨image, -, h⟩ := Option.bind_eq_some_iff.1 h
  obtain rfl := Option.some.inj h
  refine ⟨?_, t.volumeMounts_readable, Shape.readFields_empty (by decide +kernel) rfl⟩
  intro ps hps p hp
  obtain rfl := Option.some.inj hps
  obtain rfl := List.mem_singleton.1 hp
  exact Shape.readFields_empty (by decide) rfl

theorem Readable.podSpec (h : t.Readable) : t.podSpec.Readable where
  containers c hc := by
    rcases List.mem_cons.1 hc with rfl | hmysqld
    · exact t.vttabletProcess_readable
    · exact mysqldProcess?_readable (Option.mem_toList.1 hmysqld)
  volumes vs hvs v hv := by
    obtain ⟨template, -, rfl⟩ := Option.map_eq_some_iff.1 hvs
    obtain rfl := List.mem_singleton.1 hv
    exact Shape.readFields_empty (by decide +kernel) rfl
  affinity := h.affinity
  tolerations ts hts := by
    rw [TabletSpec.podSpec] at hts
    split at hts
    · cases hts
    · obtain rfl := Option.some.inj hts
      exact h.tolerations
  extra := Shape.readFields_empty (by decide +kernel) rfl

theorem Readable.newPod (h : t.Readable) (key : ObjectKey) : (t.newPod key).Readable where
  metadata := ⟨ObjectMeta.readable_default.extra, nofun⟩
  spec s hs := by
    obtain rfl := Option.some.inj hs
    exact h.podSpec
  status := nofun

theorem Readable.newClaim? (h : t.Readable) {key : ObjectKey} {c : Claim} (hc : t.newClaim? key = some c) :
    c.Readable := by
  obtain ⟨template, htemplate, rfl⟩ := Option.map_eq_some_iff.1 hc
  refine ⟨⟨ObjectMeta.readable_default.extra, nofun⟩, fun s hs => ?_, nofun⟩
  obtain rfl := Option.some.inj hs
  exact h.claim template htemplate

end TabletSpec

theorem Shard.readable_of_mem_tablets {shard : Shard}
    (hpools : ∀ pool ∈ shard.spec.tabletPools, pool.PartsReadBack) {t : TabletSpec}
    (ht : t ∈ shard.tablets) : t.Readable := by
  obtain ⟨pool, hpool, i, -, rfl⟩ := mem_tablets_iff.1 ht
  have hparts := hpools pool hpool
  exact ⟨fun c hc => ClaimSpec.readable_of_ofDocument? (hparts.claim c hc), hparts.affinity,
    hparts.tolerations⟩

/-! ## What is changed -/

theorem Pod.readable_unmarked : UnmarkedFits Pod.Readable := fun _ _ _ h =>
  ⟨⟨h.metadata.extra, h.metadata.deletion⟩, h.spec, h.status⟩

theorem Claim.readable_unmarked : UnmarkedFits Claim.Readable := fun _ _ _ h =>
  ⟨⟨h.metadata.extra, h.metadata.deletion⟩, h.spec, h.status⟩

/-- Growing a claim leaves what it carries along. -/
theorem ClaimSpec.Readable.growTo {s : ClaimSpec} (h : s.Readable) (want : Quantity) :
    (s.growTo want).Readable := by
  unfold ClaimSpec.growTo
  split <;> exact h

theorem Claim.Readable.updateInPlace {c : Claim} (h : c.Readable) (t : TabletSpec) :
    (c.updateInPlace t).Readable := by
  unfold Claim.updateInPlace
  dsimp only
  split
  · exact ⟨⟨h.metadata.extra, h.metadata.deletion⟩, h.spec, h.status⟩
  · refine ⟨⟨h.metadata.extra, h.metadata.deletion⟩, fun s hs => ?_, h.status⟩
    obtain rfl := Option.some.inj hs
    cases hspec : c.spec with
    | none =>
        have hnew : ClaimSpec.Readable {} := Shape.readFields_empty (by decide) rfl
        exact hnew.growTo _
    | some s => exact (h.spec s hspec).growTo _

/-! ## The stores during a pass -/

namespace MemoryStore.Views

/-- What is in a table was read in a slot. -/
theorem readable {t : MemoryStore} {s : SlotStore} (h : t.Views s) {kind : StoredKind} {key : ObjectKey}
    {object : kind.Object} (hobject : t.fetch? kind.Object key = some object) : kind.Readable object := by
  rw [← h.fetch] at hobject
  obtain ⟨json, -, hread⟩ := Option.bind_eq_some_iff.1 hobject
  exact StoredKind.readable_of_ofDocument? hread

theorem list_readable (kind : StoredKind) (ns : String) (selector : StringMap) :
    Related Views (fun a b => a = b ∧ ∀ objects, a = .ok objects → ∀ object ∈ objects, kind.Readable object)
      ((MemoryStore.calls kind.Object).list ns selector)
      ((SlotStore.calls kind.Object).list ns selector) := by
  intro t s hs
  obtain ⟨hanswer, hviews⟩ := list_related kind ns selector t s hs
  refine ⟨⟨hanswer, fun objects hobjects object hobject => ?_⟩, hviews⟩
  obtain rfl := Except.ok.inj hobjects
  obtain ⟨key, hfetch, -⟩ := Table.mem_select.1 hobject
  exact hs.readable hfetch

variable {entered : TabletSpec → Prop}

theorem answersAlike_of_eq {K : Type} [ManagedObject K] (a b : Except StoreError K) (h : a = b) :
    AnswersAlike a b := by
  subst h
  cases a with
  | ok object => exact .ok rfl
  | error e => exact .error e

/-- Calls during a pass are answered alike over tables and over slots. -/
theorem calls_agree (kind : StoredKind) (key : ObjectKey) :
    ((MemoryStore.calls kind.Object).lift PassState.onWorld).Agrees
      ((SlotStore.calls kind.Object).lift PassState.onWorld) key (PassState.Alike Views entered)
      kind.Readable where
  create _ h := (PassState.Alike.onWorld (create_related h)).imp answersAlike_of_eq
  update _ h := (PassState.Alike.onWorld (update_related h)).imp answersAlike_of_eq
  delete := PassState.Alike.onWorld (delete_related kind key)

end MemoryStore.Views

/-! ## A pass -/

namespace Shard

section Halves

variable (shard : Shard) (topology : Topology) (config : PassConfig) (now : Timestamp)

theorem claims_over_slots :
    let input := shard.inputIn .inMemory topology config now
    let input' := shard.inputIn .inSlots topology config now
    Related (PassState.Alike MemoryStore.Views TabletSpec.Readable) Eq
      (PassInput.phase input.cluster.duringPass.claims (claimStrategy input) input.claimSet)
      (PassInput.phase input'.cluster.duringPass.claims (claimStrategy input') input'.claimSet) := by
  intro input input'
  refine phase_related (ObjectSet.reconcile_related Claim.readable_unmarked (fun key => ⟨?_, ?_⟩) ?_)
  · refine claimStrategy_agrees (fun t c ht hc => ht.newClaim? hc) (fun t c _ hc => hc.updateInPlace t) ?_
    refine (PassState.Alike.onWorld (MemoryStore.Views.get_related .pod key)).bind ?_
    rintro answer _ rfl
    cases answer with
    | ok pod => cases pod <;> exact .pure rfl
    | error e => exact .pure rfl
  · exact MemoryStore.Views.calls_agree .claim key
  · exact PassState.Alike.onWorld (MemoryStore.Views.list_readable .claim _ _)

theorem pods_over_slots :
    let input := shard.inputIn .inMemory topology config now
    let input' := shard.inputIn .inSlots topology config now
    Related (PassState.Alike MemoryStore.Views TabletSpec.Readable) Eq
      (PassInput.phase input.cluster.duringPass.pods (podStrategy input) input.podSet)
      (PassInput.phase input'.cluster.duringPass.pods (podStrategy input') input'.podSet) := by
  intro input input'
  refine phase_related (ObjectSet.reconcile_related Pod.readable_unmarked (fun key => ⟨?_, ?_⟩) ?_)
  · refine podStrategy_agrees Pod.readable_unmarked (fun t ht => ht.newPod key) fun t ht => ?_
    unfold TabletSpec.checkResize
    split
    · exact .pure ⟨rfl, ht⟩
    · refine (PassState.Alike.onWorld (MemoryStore.Views.get_related .claim (t.key shard.ns))).bind ?_
      rintro answer _ rfl
      cases answer with
      | ok claim => exact .pure ⟨rfl, ht.markResize claim⟩
      | error e => exact .pure ⟨rfl, ht⟩
  · exact MemoryStore.Views.calls_agree .pod key
  · exact PassState.Alike.onWorld (MemoryStore.Views.list_readable .pod _ _)

end Halves

/-- *A pass over tables and over slots.* If a store of slots looks like the tables before a pass, then the
pass answers the same over both, and the store looks like the tables afterwards. -/
theorem pass_over_slots {shard : Shard} (hpools : ∀ pool ∈ shard.spec.tabletPools, pool.PartsReadBack)
    (topology : Topology) (config : PassConfig) (now : Timestamp) :
    Related MemoryStore.Views Eq (shard.reconcileAt topology config now)
      (shard.reconcileInSlots topology config now) := by
  refine run_related (fun t ht => readable_of_mem_tablets hpools ht) ?_
  refine (shard.claims_over_slots topology config now).bind fun _ _ _ => ?_
  exact shard.pods_over_slots topology config now

end Shard

end TabletFleet
