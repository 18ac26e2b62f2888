import TabletFleet.OrdMap

set_option autoImplicit false

/-! # More on maps in key order

Lookups after filtering and after adding entries one by one, the keys of a map as a list without
repetition, and the distinct elements of a list in ascending order. -/

namespace TabletFleet.OrdMap

variable {κ α β : Type} [Ord κ] [Std.TransOrd κ] [Std.LawfulEqOrd κ]

/-! ## Lookups -/

theorem get?_filter (p : κ → α → Bool) (m : OrdMap κ α) (k : κ) :
    (m.filter p).get? k = (m.get? k).filter (p k) := by
  refine Option.ext fun v => ?_
  rw [Option.filter_eq_some_iff, ← mem_toList, ← mem_toList]
  simp only [filter, toList, List.mem_filter]

theorem ofList_toList (m : OrdMap κ α) : ofList m.toList = m := by
  refine ext_get? fun k => ?_
  have h := get?_merge (empty : OrdMap κ α) m k
  rw [get?_empty, Option.or_none] at h
  exact h

/-- Of what was added under a key, the last is found; what was there before, if nothing was added. -/
theorem get?_insertMany_eq_some [DecidableEq κ] {m : OrdMap κ α} {l : List (κ × α)} {k : κ} {v : α} :
    (m.insertMany l).get? k = some v ↔
      (∃ earlier later, l = earlier ++ (k, v) :: later ∧ k ∉ later.map (·.1)) ∨
        k ∉ l.map (·.1) ∧ m.get? k = some v := by
  constructor
  · intro h
    induction l generalizing m with
    | nil => exact .inr ⟨by simp, h⟩
    | cons e l ih =>
        rw [insertMany, List.foldl_cons] at h
        obtain ⟨earlier, later, rfl, hlast⟩ | ⟨hnew, hget⟩ := ih h
        · exact .inl ⟨e :: earlier, later, rfl, hlast⟩
        · rw [get?_insert] at hget
          by_cases hk : k = e.1
          · rw [if_pos hk, Option.some.injEq] at hget
            exact .inl ⟨[], l, by rw [hk, ← hget]; rfl, hnew⟩
          · rw [if_neg hk] at hget
            refine .inr ⟨?_, hget⟩
            rw [List.map_cons, List.mem_cons, not_or]
            exact ⟨hk, hnew⟩
  · rintro (⟨earlier, later, rfl, hlast⟩ | ⟨hnew, hget⟩)
    · rw [insertMany, List.foldl_append, List.foldl_cons, ← insertMany, ← insertMany,
        get?_insertMany_of_notMem hlast, get?_insert, if_pos rfl]
    · rw [get?_insertMany_of_notMem hnew, hget]

theorem get?_ofList_eq_some [DecidableEq κ] {l : List (κ × α)} {k : κ} {v : α} :
    (ofList l).get? k = some v ↔
      ∃ earlier later, l = earlier ++ (k, v) :: later ∧ k ∉ later.map (·.1) := by
  rw [ofList, get?_insertMany_eq_some, get?_empty]
  simp

/-- Of the things that were entered under a key, the last is found. -/
theorem get?_ofList_map_eq_some [DecidableEq κ] {ι : Type} {l : List ι} {f : ι → κ} {g : ι → α} {k : κ}
    {v : α} : (ofList (l.map fun x => (f x, g x))).get? k = some v ↔
      ∃ earlier x later, l = earlier ++ x :: later ∧ f x = k ∧ g x = v ∧ ∀ y ∈ later, f y ≠ k := by
  have hkeys : ∀ later : List ι, k ∉ (later.map fun x => (f x, g x)).map (·.1) ↔
      ∀ y ∈ later, f y ≠ k := by
    intro later
    simp
  rw [get?_ofList_eq_some]
  constructor
  · rintro ⟨earlier, later, hsplit, hlast⟩
    obtain ⟨earlier', rest, rfl, rfl, hrest⟩ := List.map_eq_append_iff.1 hsplit
    obtain ⟨x, later', rfl, hx, rfl⟩ := List.map_eq_cons_iff.1 hrest
    obtain ⟨hk, hv⟩ := Prod.mk.inj hx
    exact ⟨earlier', x, later', rfl, hk, hv, (hkeys later').1 hlast⟩
  · rintro ⟨earlier, x, later, rfl, rfl, rfl, hlast⟩
    exact ⟨_, _, by rw [List.map_append, List.map_cons], (hkeys later).2 hlast⟩

/-- What is found at a key has been added under it, or was there before. -/
theorem get?_insertMany_cases [DecidableEq κ] {m : OrdMap κ α} {l : List (κ × α)} {k : κ} {v : α}
    (h : (m.insertMany l).get? k = some v) : (k, v) ∈ l ∨ m.get? k = some v := by
  obtain ⟨earlier, later, rfl, -⟩ | ⟨-, hget⟩ := get?_insertMany_eq_some.1 h
  · exact .inl (List.mem_append_right _ List.mem_cons_self)
  · exact .inr hget

/-- There is something at the keys that entries were added under, and where there was something
before. -/
theorem isSome_get?_insertMany [DecidableEq κ] (m : OrdMap κ α) (l : List (κ × α)) (k : κ) :
    ((m.insertMany l).get? k).isSome = true ↔ k ∈ l.map (·.1) ∨ (m.get? k).isSome = true := by
  induction l generalizing m with
  | nil => simp [insertMany]
  | cons e l ih =>
      rw [insertMany, List.foldl_cons, ← insertMany, ih, get?_insert, List.map_cons, List.mem_cons]
      by_cases hk : k = e.1
      · simp [hk]
      · simp [hk]

/-- There is an entry at a key just when one was added under it. -/
theorem isSome_get?_ofList [DecidableEq κ] (l : List (κ × α)) (k : κ) :
    ((ofList l).get? k).isSome = true ↔ k ∈ l.map (·.1) := by
  rw [ofList, isSome_get?_insertMany, get?_empty]
  simp

/-- Added entries count, and where there are none what was there before. -/
theorem get?_insertMany [DecidableEq κ] (m : OrdMap κ α) (l : List (κ × α)) (k : κ) :
    (m.insertMany l).get? k = ((ofList l).get? k).or (m.get? k) := by
  refine Option.ext fun v => ?_
  rw [get?_insertMany_eq_some, Option.or_eq_some_iff, get?_ofList_eq_some,
    ← Option.not_isSome_iff_eq_none, isSome_get?_ofList]

theorem get?_ofList_cons [DecidableEq κ] (e : κ × α) (l : List (κ × α)) (k : κ) :
    (ofList (e :: l)).get? k = ((ofList l).get? k).or (if k = e.1 then some e.2 else none) := by
  rw [ofList, insertMany, List.foldl_cons, ← insertMany, get?_insertMany, get?_insert, get?_empty]

/-- Where no key is repeated, an entry is found just when it is listed. -/
theorem get?_ofList_of_nodup [DecidableEq κ] {l : List (κ × α)} (hkeys : (l.map (·.1)).Nodup) {k : κ}
    {v : α} : (ofList l).get? k = some v ↔ (k, v) ∈ l := by
  rw [get?_ofList_eq_some]
  constructor
  · rintro ⟨earlier, later, rfl, -⟩
    exact List.mem_append_right _ List.mem_cons_self
  · intro hmem
    obtain ⟨earlier, later, rfl⟩ := List.append_of_mem hmem
    rw [List.map_append, List.map_cons, List.nodup_append] at hkeys
    exact ⟨earlier, later, rfl, (List.nodup_cons.1 hkeys.2.1).1⟩

/-- Merging the same map twice is like merging it once. -/
theorem merge_merge_self (m m' : OrdMap κ α) : (m.merge m').merge m' = m.merge m' := by
  refine ext_get? fun k => ?_
  rw [get?_merge, get?_merge]
  cases m'.get? k <;> rfl

/-! ## Keys -/

omit [Std.TransOrd κ] in
theorem nodup_keys (m : OrdMap κ α) : (m.toList.map (·.1)).Nodup := by
  rw [List.Nodup, List.pairwise_map]
  refine m.sorted.imp fun {a b} hlt heq => ?_
  have hself : compare b.1 b.1 = .lt := heq ▸ hlt
  exact absurd hself (by simp)

end TabletFleet.OrdMap

namespace TabletFleet

/-! ## Distinct elements in order -/

variable {κ : Type} [Ord κ] [Std.TransOrd κ] [Std.LawfulEqOrd κ]

theorem mem_sortedDistinct [DecidableEq κ] {l : List κ} {x : κ} : x ∈ sortedDistinct l ↔ x ∈ l := by
  rw [sortedDistinct, OrdMap.mem_keys, OrdMap.isSome_get?_ofList, List.map_map]
  exact iff_of_eq (congrArg (x ∈ ·) (List.map_id' l))

theorem pairwise_sortedDistinct (l : List κ) :
    (sortedDistinct l).Pairwise fun a b => compare a b = .lt :=
  List.pairwise_map.2 (OrdMap.ofList (l.map fun k => (k, ()))).sorted

/-- Two lists with the same elements have the same distinct ones in the same order. -/
theorem sortedDistinct_congr [DecidableEq κ] {l l' : List κ} (h : ∀ x, x ∈ l ↔ x ∈ l') :
    sortedDistinct l = sortedDistinct l' := by
  have hsame : OrdMap.ofList (l.map (·, ())) = OrdMap.ofList (l'.map (·, ())) := by
    refine OrdMap.ext_get? fun k => ?_
    have hkeys : ((OrdMap.ofList (l.map (·, ()))).get? k).isSome = true ↔
        ((OrdMap.ofList (l'.map (·, ()))).get? k).isSome = true := by
      simp [OrdMap.isSome_get?_ofList, h]
    cases hl : (OrdMap.ofList (l.map (·, ()))).get? k <;>
      cases hl' : (OrdMap.ofList (l'.map (·, ()))).get? k <;> simp_all
  rw [sortedDistinct, sortedDistinct, hsame]

theorem sortedDistinct_eq_nil [DecidableEq κ] {l : List κ} : sortedDistinct l = [] ↔ l = [] := by
  simp only [List.eq_nil_iff_forall_not_mem, mem_sortedDistinct]

end TabletFleet
