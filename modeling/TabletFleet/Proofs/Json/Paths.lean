import TabletFleet.Json.Changes
import TabletFleet.Proofs.OrdMap

set_option autoImplicit false

/-! # Where values differ

The paths at which two objects differ are those at which their members do (`differsAt_ofMap`). Which
changes are reported depends on these paths alone, and not on how often they are come across
(`changedPaths_congr`). -/

namespace TabletFleet.Json

/-! ## Equal values -/

/-- A value does not differ from itself. -/
theorem differences_self (depth : Nat) (j : Json) : differences depth j j = [] := by
  unfold differences
  rw [if_pos rfl]

theorem changedPaths_self (j : Json) : j.changedPaths j = [] := by
  rw [changedPaths, differences_self]
  rfl

/-! ## Members -/

theorem lookup_eq_none {k : String} {members : List (String × Json)}
    (h : k ∉ members.map (·.1)) : Entries.lookup k members = none := by
  induction members with
  | nil => rfl
  | cons e members ih =>
      rw [List.map_cons, List.mem_cons, not_or] at h
      have hne : compare k e.1 ≠ .eq := fun heq => h.1 (Std.LawfulEqCmp.eq_of_compare heq)
      rw [Entries.lookup, if_neg hne]
      exact ih h.2

theorem memberOrNull_eq_null {j : Json} {k : String} (h : k ∉ j.keys) : j.memberOrNull k = .null := by
  cases j with
  | obj members => rw [memberOrNull, get?, lookup_eq_none h, Option.getD_none]
  | _ => rfl

theorem lookup_unsignMembers (k : String) (members : List (String × Json)) :
    Entries.lookup k (unsignMembers members) = (Entries.lookup k members).map unsignZeros := by
  induction members with
  | nil => rfl
  | cons e members ih =>
      simp only [unsignMembers, Entries.lookup]
      split
      · rfl
      · exact ih

theorem memberOrNull_unsignZeros (members : List (String × Json)) (k : String) :
    (unsignZeros (.obj members)).memberOrNull k = (memberOrNull (.obj members) k).unsignZeros := by
  simp only [unsignZeros, memberOrNull, get?, lookup_unsignMembers]
  cases Entries.lookup k members <;> rfl

/-! ## Paths -/

/-- Objects differ at the paths at which their members do. -/
theorem mem_differences_obj {depth : Nat} {as bs : List (String × Json)} {path : List String} :
    path ∈ differences (depth + 1) (.obj as) (.obj bs) ↔
      ∃ k rest, path = k :: rest ∧
        rest ∈ differences depth (memberOrNull (.obj as) k) (memberOrNull (.obj bs) k) := by
  by_cases hsame : Json.obj as = Json.obj bs
  · simp [hsame, differences_self]
  · have hpaths : differences (depth + 1) (.obj as) (.obj bs) =
        (keys (.obj as) ++ keys (.obj bs)).flatMap fun k =>
          (differences depth (memberOrNull (.obj as) k) (memberOrNull (.obj bs) k)).map (k :: ·) := by
      rw [differences, if_neg hsame]
    simp only [hpaths, List.mem_flatMap, List.mem_append, List.mem_map]
    constructor
    · rintro ⟨k, -, rest, hrest, rfl⟩
      exact ⟨k, rest, rfl, hrest⟩
    · rintro ⟨k, rest, rfl, hrest⟩
      refine ⟨k, ?_, rest, hrest, rfl⟩
      -- a member that neither object has is null in both
      refine Decidable.byContradiction fun hnone => ?_
      rw [not_or] at hnone
      rw [memberOrNull_eq_null hnone.1, memberOrNull_eq_null hnone.2, differences_self] at hrest
      cases hrest

/-- Two values differ at the path, zeros with and without sign being the same. -/
def DiffersAt (depth : Nat) (a b : Json) (path : List String) : Prop :=
  path ∈ differences depth a.unsignZeros b.unsignZeros

theorem not_differsAt_self (depth : Nat) (j : Json) (path : List String) :
    ¬DiffersAt depth j j path := by
  rw [DiffersAt, differences_self]
  exact List.not_mem_nil

theorem differsAt_zero {a b : Json} {path : List String} :
    DiffersAt 0 a b path ↔ path = [] ∧ a.unsignZeros ≠ b.unsignZeros := by
  unfold DiffersAt differences
  by_cases h : a.unsignZeros = b.unsignZeros
  · simp [h]
  · simp [h]

theorem differsAt_obj {depth : Nat} {as bs : List (String × Json)} {path : List String} :
    DiffersAt (depth + 1) (.obj as) (.obj bs) path ↔
      ∃ k rest, path = k :: rest ∧
        DiffersAt depth (memberOrNull (.obj as) k) (memberOrNull (.obj bs) k) rest := by
  have hmember : ∀ (members : List (String × Json)) k,
      memberOrNull (.obj (unsignMembers members)) k
        = (memberOrNull (.obj members) k).unsignZeros := memberOrNull_unsignZeros
  unfold DiffersAt
  simp only [unsignZeros, mem_differences_obj, hmember]

/-- The member of an object that is built from a map. -/
def entryOrNull (m : OrdMap String Json) (k : String) : Json := (m.get? k).getD .null

theorem differsAt_ofMap {depth : Nat} {m m' : OrdMap String Json} {path : List String} :
    DiffersAt (depth + 1) (ofMap m) (ofMap m') path ↔
      ∃ k rest, path = k :: rest ∧ DiffersAt depth (entryOrNull m k) (entryOrNull m' k) rest :=
  differsAt_obj

/-- Objects whose members differ at the same paths differ at the same paths. -/
theorem differsAt_ofMap_congr {depth : Nat} {a b a' b' : OrdMap String Json}
    (h : ∀ k rest, DiffersAt depth (entryOrNull a k) (entryOrNull b k) rest ↔
      DiffersAt depth (entryOrNull a' k) (entryOrNull b' k) rest) (path : List String) :
    DiffersAt (depth + 1) (ofMap a) (ofMap b) path ↔
      DiffersAt (depth + 1) (ofMap a') (ofMap b') path := by
  simp only [differsAt_ofMap, h]

/-- Values that differ at the same paths have the same changes. -/
theorem changedPaths_congr {a b a' b' : Json}
    (h : ∀ path, DiffersAt changeDepth a b path ↔ DiffersAt changeDepth a' b' path) :
    a.changedPaths b = a'.changedPaths b' := by
  refine sortedDistinct_congr fun text => ?_
  simp only [List.mem_map]
  exact exists_congr fun path => and_congr (h path) Iff.rfl

/-- No changes are reported just when the values differ nowhere. -/
theorem changedPaths_eq_nil {a b : Json} :
    a.changedPaths b = [] ↔ ∀ path, ¬DiffersAt changeDepth a b path := by
  rw [changedPaths, sortedDistinct_eq_nil, List.map_eq_nil_iff, List.eq_nil_iff_forall_not_mem]
  exact Iff.rfl

/-! ## Objects from lists of fields -/

/-- The entry at a key after fields have been written over it: that of the last field of this name that
has a value. -/
def lastValue (k : String) (before : Option Json) (fields : List (String × Option Json)) :
    Option Json :=
  fields.foldl (fun found f => if f.1 = k then f.2.or found else found) before

theorem get?_insertMany_fields (m : OrdMap String Json) (fields : List (String × Option Json))
    (k : String) :
    (m.insertMany (fields.filterMap fun f => f.2.map (f.1, ·))).get? k
      = lastValue k (m.get? k) fields := by
  induction fields generalizing m with
  | nil => rfl
  | cons f fields ih =>
      rw [lastValue, List.foldl_cons, ← lastValue]
      cases hvalue : f.2 with
      | none =>
          rw [List.filterMap_cons_none (by rw [hvalue]; rfl), ih]
          simp
      | some j =>
          rw [List.filterMap_cons_some (by rw [hvalue]; rfl), OrdMap.insertMany, List.foldl_cons,
            ← OrdMap.insertMany, ih, OrdMap.get?_insert]
          simp [eq_comm]

theorem lastValue_of_notMem {k : String} {fields : List (String × Option Json)}
    (hk : k ∉ fields.map (·.1)) (before : Option Json) : lastValue k before fields = before := by
  induction fields with
  | nil => rfl
  | cons f fields ih =>
      obtain ⟨hf, hrest⟩ := not_or.1 (mt List.mem_cons.2 hk)
      rw [lastValue, List.foldl_cons, if_neg (Ne.symm hf)]
      exact ih hrest

/-- Of fields with different names, the one of a name is the last one of it. -/
theorem lastValue_of_mem {fields : List (String × Option Json)} (hnodup : (fields.map (·.1)).Nodup)
    {f : String × Option Json} (hf : f ∈ fields) : lastValue f.1 none fields = f.2 := by
  induction fields with
  | nil => cases hf
  | cons g fields ih =>
      obtain ⟨hg, hnodup⟩ := List.nodup_cons.1 hnodup
      rcases List.mem_cons.1 hf with rfl | hf
      · rw [lastValue, List.foldl_cons, if_pos rfl, Option.or_none]
        exact lastValue_of_notMem hg f.2
      · have hne : g.1 ≠ f.1 := fun heq => hg (List.mem_map.2 ⟨f, hf, heq.symm⟩)
        rw [lastValue, List.foldl_cons, if_neg hne]
        exact ih hnodup hf

/-- Fields that have a value are found under their names. -/
theorem of_objectOf {fields : List (String × Option Json)} (hnodup : (fields.map (·.1)).Nodup)
    {j : Json} (hj : j = objectOf fields) :
    ∃ m : OrdMap String Json, j = .ofMap m ∧ ∀ f ∈ fields, m.get? f.1 = f.2 := by
  refine ⟨_, hj, fun f hf => ?_⟩
  rw [OrdMap.ofList, get?_insertMany_fields, OrdMap.get?_empty, lastValue_of_mem hnodup hf]

theorem unsignMembers_texts (members : List (String × String)) :
    unsignMembers (members.map fun e => (e.1, .str e.2)) = members.map fun e => (e.1, .str e.2) := by
  induction members with
  | nil => rfl
  | cons e members ih => simp only [List.map_cons, unsignMembers, unsignZeros, ih]

/-- Different maps of texts are different values. -/
theorem unsignZeros_ofStringMap_inj {m m' : StringMap} :
    (ofStringMap m).unsignZeros = (ofStringMap m').unsignZeros ↔ m = m' := by
  constructor
  · intro h
    have htexts : ∀ m : StringMap, (ofStringMap m).unsignZeros = ofStringMap m := fun m =>
      congrArg Json.obj (unsignMembers_texts m.toList)
    rw [htexts, htexts] at h
    have hentries := Json.obj.inj h
    refine OrdMap.ext_get? fun k => ?_
    have hget : (m.map fun _ v => Json.str v).get? k = (m'.map fun _ v => Json.str v).get? k :=
      congrArg (Entries.lookup k) hentries
    rw [OrdMap.get?_map, OrdMap.get?_map] at hget
    exact Option.map_injective (fun _ _ => Json.str.inj) hget
  · rintro rfl
    rfl

end TabletFleet.Json
