import TabletFleet.Proofs.Pass.Outcome
import TabletFleet.Proofs.Pass.Upkeep

set_option autoImplicit false

/-! # Pods that are made anew

A desired pod is made anew by two passes. The first deletes it, if changes are pending that nothing has to
be waited for with (`Shard.toBeRemade_iff`), and the second, which finds none, creates it. -/

namespace TabletFleet

namespace Shard

variable {shard : Shard} {topology : Topology} {config : PassConfig} {now : Timestamp}
variable {w : MemoryStore} {key : ObjectKey}

/-- The pod of a desired tablet is to be made anew, so it has to go first. -/
def ToBeRemade (shard : Shard) (now : Timestamp) (w : MemoryStore) (key : ObjectKey) : Prop :=
  shard.podAction now (shard.afterClaims now w) key (shard.found Pod w key) = .delete

instance : Decidable (shard.ToBeRemade now w key) :=
  inferInstanceAs (Decidable (shard.podAction now (shard.afterClaims now w) key
    (shard.found Pod w key) = .delete))

theorem podAction_found {t : TabletSpec} (ht : shard.byKey.get? key = some t) (s : MemoryStore)
    (p : Pod) : shard.podAction now s key (some p) =
      if shard.podPending t (t.resizedIn s key) p ≠ [] ∧
          (shard.spec.updateStrategy = .immediate ∨ p.metadata.released = true) then .delete
      else .replace p (shard.podKept t (t.resizedIn s key) p) := by
  rw [podAction, ht]
  exact updateAction_eq

/-- The pods that are to be made anew are those that are found with pending changes, and that are released
or need not be. -/
theorem toBeRemade_iff {t : TabletSpec} (ht : shard.byKey.get? key = some t) :
    shard.ToBeRemade now w key ↔ ∃ p, shard.found Pod w key = some p ∧
      shard.podPending t (t.resizedIn (shard.afterClaims now w) key) p ≠ [] ∧
      (shard.spec.updateStrategy = .immediate ∨ p.metadata.released = true) := by
  unfold ToBeRemade
  cases hp : shard.found Pod w key with
  | none => simp [podAction, ht]
  | some p =>
      rw [podAction_found ht]
      simp only [Option.some.injEq, exists_eq_left']
      split
      · next hremade => exact iff_of_true rfl hremade
      · next hkept => exact iff_of_false (Action.replace_ne_delete _ _) hkept

end Shard

end TabletFleet
