import TabletFleet.Proofs.Reconcile.Visit

set_option autoImplicit false

/-! # Settling

How what is stored at a desired key settles when nothing but passes touches it. A pass creates an object
if it finds none, and keeps the one that it finds up. So after one pass there is an object, or there
will never be one (`Attended`). From then on every pass leaves it up to date (`UpToDate`), provided that
what has been kept up and stored needs no more upkeep; and then the next call is idle. -/

namespace TabletFleet.ObjectSet

variable {K : Type} [Stored K] [DecidableEq K]

/-- The call for a desired key at which nothing is ever made anew. -/
def upkeep (new : Option K) (kept : K → K) (live : Option K) : Action K :=
  match live with
  | none => createAction new
  | some current => .replace current (kept current)

/-- There is an object, or it may not be created, or there is none to be. -/
def Attended (new : Option K) (rejects : Verb → Bool) (stored : Option K) : Prop :=
  stored.isSome = true ∨ rejects .create = true ∨ new = none

/-- What is found needs no upkeep, or may not be updated. -/
def UpToDate (kept : K → K) (rejects : Verb → Bool) (live : Option K) : Prop :=
  ∀ current, live = some current → kept current = current ∨ rejects .update = true

section Upkeep

variable {new : Option K} {kept : K → K} {rejects : Verb → Bool} {finds : K → Bool}
variable {stored : Option K} {stamp : Stamp}

omit [Stored K] in
theorem upkeep_ne_delete (live : Option K) : upkeep new kept live ≠ .delete := by
  cases live with
  | none => cases new <;> simp [upkeep, createAction]
  | some current => exact Action.replace_ne_delete current (kept current)

omit [Stored K] [DecidableEq K] in
theorem idle_createAction (hattended : Attended new rejects stored) :
    (createAction new).Idle rejects stored := by
  cases new with
  | none => trivial
  | some object =>
      rcases hattended with hstored | hrejected | hnone
      · exact .inr hstored
      · exact .inl hrejected
      · cases hnone

/-- The object at a key that has been visited is attended. -/
theorem attended_leaves : Attended new rejects
    ((upkeep new kept (stored.filter finds)).leaves rejects stamp stored) := by
  by_cases hstored : stored.isSome = true
  · exact .inl (Action.isSome_leaves (upkeep_ne_delete _) rejects stamp hstored)
  · rw [Option.not_isSome_iff_eq_none] at hstored
    rw [hstored, Option.filter_none, upkeep]
    cases new with
    | none => exact .inr (.inr rfl)
    | some object =>
        by_cases hrejected : rejects .create = true
        · exact .inr (.inl hrejected)
        · exact .inl (by simp [createAction, Action.leaves, hrejected])

/-- The object at a key that was attended before is up to date after a visit. -/
theorem upToDate_leaves (hattended : Attended new rejects stored)
    (hkept : ∀ current, kept (storedAs stamp false (kept current)) = storedAs stamp false (kept current)) :
    UpToDate kept rejects
      (((upkeep new kept (stored.filter finds)).leaves rejects stamp stored).filter finds) := by
  intro after hafter
  obtain ⟨hleaves, hfound⟩ := Option.filter_eq_some_iff.1 hafter
  cases hlive : stored.filter finds with
  | none =>
      -- nothing is created any more, so what is found was found before
      rw [hlive, upkeep, Action.leaves_of_idle (idle_createAction hattended)] at hleaves
      rw [hleaves, Option.filter_some, if_pos hfound] at hlive
      cases hlive
  | some current =>
      have hcurrent : stored = some current := (Option.filter_eq_some_iff.1 hlive).1
      rw [hlive, upkeep, hcurrent] at hleaves
      rcases Action.leaves_replace_cases hleaves with ⟨rfl, hdone⟩ | rfl
      · exact hdone
      · exact .inl (hkept current)

omit [Stored K] in
/-- Once a key is attended and what is found at it is up to date, the call for it is idle. -/
theorem idle_upkeep (hattended : Attended new rejects stored)
    (hupToDate : UpToDate kept rejects (stored.filter finds)) :
    (upkeep new kept (stored.filter finds)).Idle rejects stored := by
  cases hlive : stored.filter finds with
  | none => exact idle_createAction hattended
  | some current => exact Action.idle_replace (hupToDate current hlive)

end Upkeep

end TabletFleet.ObjectSet
