import TabletFleet.Json.Source
import TabletFleet.Proofs.Json.Paths

set_option autoImplicit false

/-! # The report of changes

`changedPaths` names every place at which two values differ, down to the second key, and no other
(`ChangedAt`). Null stands for what is absent: no change is reported just when the values are the same
without the null members that the report can see (`dropNulls`). -/

namespace TabletFleet.Json

/-! ## Values as they are compared -/

/-- The same value, but for the signs of zeros. -/
def Alike (a b : Json) : Prop := a.unsignZeros = b.unsignZeros

instance (a b : Json) : Decidable (Alike a b) := inferInstanceAs (Decidable (_ = _))

/-- Both values are objects. -/
inductive BothObjects : Json → Json → Prop where
  | intro (as bs : List (String × Json)) : BothObjects (.obj as) (.obj bs)

theorem BothObjects.symm {a b : Json} (h : BothObjects a b) : BothObjects b a := by
  cases h with
  | intro as bs => exact .intro bs as

theorem unsignZeros_eq_null {j : Json} : j.unsignZeros = .null ↔ j = .null := by
  cases j <;> simp [unsignZeros]

/-! ## Objects in order -/

/-- In every object the members are listed in strictly ascending order of their keys, as they are in
all values that are built or read here. -/
inductive Ordered : Json → Prop where
  | null : Ordered .null
  | bool (b : Bool) : Ordered (.bool b)
  | number (n : Json.Number) : Ordered (.number n)
  | str (s : String) : Ordered (.str s)
  | arr {items : List Json} (ordered : ∀ j ∈ items, Ordered j) : Ordered (.arr items)
  | obj {members : List (String × Json)} (ascending : Entries.Sorted members)
      (ordered : ∀ e ∈ members, Ordered e.2) : Ordered (.obj members)

theorem ordered_ofMap {m : OrdMap String Json} (h : ∀ k j, m.get? k = some j → Ordered j) :
    Ordered (ofMap m) :=
  .obj m.sorted fun e he => h e.1 e.2 (OrdMap.mem_toList.1 he)

theorem ordered_object {members : List (String × Json)} (h : ∀ e ∈ members, Ordered e.2) :
    Ordered (object members) := by
  refine ordered_ofMap fun k j hget => ?_
  obtain hmem | hnone := OrdMap.get?_insertMany_cases hget
  · exact h (k, j) hmem
  · cases hnone

/-- An object in order is the object of a map of values in order. -/
theorem Ordered.exists_map {members : List (String × Json)} (h : Ordered (.obj members)) :
    ∃ m : OrdMap String Json, Json.obj members = ofMap m ∧ ∀ k, Ordered (entryOrNull m k) := by
  cases h with
  | obj ascending ordered =>
      refine ⟨⟨members, ascending⟩, rfl, fun k => ?_⟩
      rw [entryOrNull]
      cases hget : OrdMap.get? ⟨members, ascending⟩ k with
      | none => exact .null
      | some j => exact ordered (k, j) (OrdMap.mem_toList.2 hget)

mutual

/-- Whatever is read from text is in order. -/
theorem Source.ordered_value? : ∀ (s : Source) {j : Json}, s.value? = some j → Ordered j
  | .null, j, h => by
      cases h
      exact .null
  | .bool b, j, h => by
      cases h
      exact .bool b
  | .number n, j, h => by
      obtain ⟨n, rfl, rfl⟩ := Option.map_eq_some_iff.1 h
      exact .number n
  | .str s, j, h => by
      obtain ⟨s, rfl, rfl⟩ := Option.map_eq_some_iff.1 h
      exact .str s
  | .arr items, j, h => by
      obtain ⟨js, hjs, rfl⟩ := Option.map_eq_some_iff.1 h
      exact .arr (Source.ordered_itemValues? items hjs)
  | .obj members, j, h => by
      obtain ⟨ms, hms, rfl⟩ := Option.map_eq_some_iff.1 h
      exact ordered_object (Source.ordered_memberValues? members hms)

theorem Source.ordered_itemValues? : ∀ (items : List Source) {js : List Json},
    Source.itemValues? items = some js → ∀ j ∈ js, Ordered j
  | [], js, h => by
      cases h
      intro j hj
      cases hj
  | s :: ss, js, h => by
      rw [Source.itemValues?] at h
      obtain ⟨j, hj, h⟩ := Option.bind_eq_some_iff.1 h
      obtain ⟨rest, hrest, h⟩ := Option.bind_eq_some_iff.1 h
      obtain rfl := Option.some.inj h
      intro x hx
      rcases List.mem_cons.1 hx with rfl | hx
      · exact Source.ordered_value? s hj
      · exact Source.ordered_itemValues? ss hrest x hx

theorem Source.ordered_memberValues? : ∀ (members : List (Option String × Source))
    {ms : List (String × Json)},
    Source.memberValues? members = some ms → ∀ e ∈ ms, Ordered e.2
  | [], ms, h => by
      cases h
      intro e he
      cases he
  | (k, s) :: rest, ms, h => by
      rw [Source.memberValues?] at h
      obtain ⟨key, -, h⟩ := Option.bind_eq_some_iff.1 h
      obtain ⟨j, hj, h⟩ := Option.bind_eq_some_iff.1 h
      obtain ⟨tail, htail, h⟩ := Option.bind_eq_some_iff.1 h
      obtain rfl := Option.some.inj h
      intro e he
      rcases List.mem_cons.1 he with rfl | he
      · exact Source.ordered_value? s hj
      · exact Source.ordered_memberValues? rest htail e he

end

/-! ## The places of changes -/

/-- The places at which `a` and `b` differ, as they are reported: the value as a whole, unless both are
objects; else a key, unless both members are objects; else a key of these. -/
inductive ChangedAt (a b : Json) : String → Prop where
  | whole (h : ¬BothObjects a b) (differ : ¬Alike a b) : ChangedAt a b "."
  | member (k : String) (h : BothObjects a b)
      (hk : ¬BothObjects (a.memberOrNull k) (b.memberOrNull k))
      (differ : ¬Alike (a.memberOrNull k) (b.memberOrNull k)) : ChangedAt a b k
  | nested (k l : String) (h : BothObjects a b)
      (hk : BothObjects (a.memberOrNull k) (b.memberOrNull k))
      (differ : ¬Alike ((a.memberOrNull k).memberOrNull l) ((b.memberOrNull k).memberOrNull l)) :
      ChangedAt a b (k ++ "." ++ l)

/-- Objects differ at the places at which their members do. -/
theorem differsAt_members {depth : Nat} {a b : Json} (h : BothObjects a b) {path : List String} :
    DiffersAt (depth + 1) a b path ↔
      ∃ k rest, path = k :: rest ∧
        DiffersAt depth (a.memberOrNull k) (b.memberOrNull k) rest := by
  cases h with
  | intro as bs => exact differsAt_obj

/-- Values that are not both objects differ as a whole or not at all. -/
theorem differsAt_whole {depth : Nat} {a b : Json} (h : ¬BothObjects a b) {path : List String} :
    DiffersAt depth a b path ↔ path = [] ∧ ¬Alike a b := by
  have hwhole : differences depth a.unsignZeros b.unsignZeros =
      if a.unsignZeros = b.unsignZeros then [] else [[]] := by
    unfold differences
    split
    · rfl
    · split
      · next ha hb =>
          -- the signs of zeros do not make an object of anything
          cases a <;> simp only [unsignZeros, reduceCtorEq] at ha
          cases b <;> simp only [unsignZeros, reduceCtorEq] at hb
          exact absurd (.intro ..) h
      · rfl
  rw [DiffersAt, hwhole, Alike]
  split <;> simp [*]

theorem differsAt_comm {depth : Nat} {a b : Json} {path : List String} :
    DiffersAt depth a b path ↔ DiffersAt depth b a path := by
  induction depth generalizing a b path with
  | zero => simp only [differsAt_zero, ne_comm]
  | succ depth ih =>
      by_cases hboth : BothObjects a b
      · simp only [differsAt_members hboth, differsAt_members hboth.symm, ih]
      · have hboth' : ¬BothObjects b a := fun h => hboth h.symm
        simp only [differsAt_whole hboth, differsAt_whole hboth', Alike, eq_comm]

theorem mem_changedPaths {a b : Json} {text : String} :
    text ∈ a.changedPaths b ↔ ∃ path, DiffersAt changeDepth a b path ∧ pathText path = text := by
  rw [changedPaths, mem_sortedDistinct, List.mem_map]
  exact Iff.rfl

theorem mem_changedPaths_iff {a b : Json} {text : String} :
    text ∈ a.changedPaths b ↔ ChangedAt a b text := by
  rw [mem_changedPaths, changeDepth]
  constructor
  · rintro ⟨path, hpath, rfl⟩
    by_cases hboth : BothObjects a b
    · obtain ⟨k, rest, rfl, hrest⟩ := (differsAt_members hboth).1 hpath
      by_cases hk : BothObjects (a.memberOrNull k) (b.memberOrNull k)
      · obtain ⟨l, last, rfl, hlast⟩ := (differsAt_members hk).1 hrest
        obtain ⟨rfl, hdiffer⟩ := differsAt_zero.1 hlast
        exact .nested k l hboth hk hdiffer
      · obtain ⟨rfl, hdiffer⟩ := (differsAt_whole hk).1 hrest
        exact .member k hboth hk hdiffer
    · obtain ⟨rfl, hdiffer⟩ := (differsAt_whole hboth).1 hpath
      exact .whole hboth hdiffer
  · intro h
    cases h with
    | whole hboth hdiffer => exact ⟨[], (differsAt_whole hboth).2 ⟨rfl, hdiffer⟩, rfl⟩
    | member _ hboth hk hdiffer =>
        have hmember : DiffersAt 1 (a.memberOrNull text) (b.memberOrNull text) [] :=
          (differsAt_whole hk).2 ⟨rfl, hdiffer⟩
        exact ⟨[text], (differsAt_members hboth).2 ⟨text, [], rfl, hmember⟩, rfl⟩
    | nested k l hboth hk hdiffer =>
        have hnested := (differsAt_members hk).2 ⟨l, [], rfl, differsAt_zero.2 ⟨rfl, hdiffer⟩⟩
        exact ⟨[k, l], (differsAt_members hboth).2 ⟨k, [l], rfl, hnested⟩, rfl⟩

/-! ## Null members -/

/-- The value without the null members of its objects, down to the given depth. -/
def dropNulls : Nat → Json → Json
  | depth + 1, .obj members =>
    .obj ((members.filter fun e => e.2 ≠ .null).map fun e => (e.1, dropNulls depth e.2))
  | _, j => j

/-- No object has null members, down to the given depth. -/
def NullFree : Nat → Json → Prop
  | depth + 1, .obj members => ∀ e ∈ members, e.2 ≠ .null ∧ NullFree depth e.2
  | _, _ => True

theorem dropNulls_of_nullFree {depth : Nat} {j : Json} (h : NullFree depth j) :
    dropNulls depth j = j := by
  induction depth generalizing j with
  | zero => rfl
  | succ depth ih =>
      cases j with
      | obj members =>
          have hfilter : members.filter (fun e => e.2 ≠ .null) = members := by
            rw [List.filter_eq_self]
            intro e he
            simpa using (h e he).1
          have hmap : members.map (fun e => (e.1, dropNulls depth e.2)) = members := by
            refine (List.map_congr_left fun e he => ?_).trans (List.map_id members)
            rw [ih (h e he).2, id]
          rw [dropNulls, hfilter, hmap]
      | null | bool | number | str | arr => rfl

theorem dropNulls_eq_null {depth : Nat} {j : Json} : dropNulls depth j = .null ↔ j = .null := by
  cases depth with
  | zero => rfl
  | succ depth => cases j <;> simp [dropNulls]

/-- Of objects and other values, none becomes the other. -/
theorem alike_dropNulls_of_not_both {depth : Nat} {a b : Json} (h : ¬BothObjects a b) :
    Alike (dropNulls depth a) (dropNulls depth b) ↔ Alike a b := by
  cases depth with
  | zero => rfl
  | succ depth =>
      cases a with
      | obj as =>
          cases b with
          | obj bs => exact absurd (.intro as bs) h
          | null | bool | number | str | arr => simp [Alike, dropNulls, unsignZeros]
      | null | bool | number | str | arr =>
          cases b <;> simp [Alike, dropNulls, unsignZeros]

/-- What is left of a member. -/
def keptMember (depth : Nat) (member : Option Json) : Option Json :=
  (member.filter (· ≠ .null)).map fun j => (dropNulls depth j).unsignZeros

theorem get?_keptMembers (depth : Nat) (m : OrdMap String Json) (k : String) :
    (((m.filter fun _ j => j ≠ .null).map fun _ j => dropNulls depth j).map
      fun _ j => j.unsignZeros).get? k = keptMember depth (m.get? k) := by
  rw [OrdMap.get?_map, OrdMap.get?_map, OrdMap.get?_filter, Option.map_map]
  rfl

theorem unsignMembers_eq_map (members : List (String × Json)) :
    unsignMembers members = members.map fun e => (e.1, e.2.unsignZeros) := by
  induction members with
  | nil => rfl
  | cons e members ih => rw [unsignMembers, ih, List.map_cons]

/-- A member is left unless it is null. -/
theorem keptMember_eq (depth : Nat) (member : Option Json) :
    keptMember depth member =
      if member.getD .null = .null then none
      else some (dropNulls depth (member.getD .null)).unsignZeros := by
  cases member with
  | none => rfl
  | some j => by_cases hj : j = .null <;> simp [keptMember, Option.filter, hj]

theorem keptMember_inj {depth : Nat} {member member' : Option Json} :
    keptMember depth member = keptMember depth member' ↔
      Alike (dropNulls depth (member.getD .null)) (dropNulls depth (member'.getD .null)) := by
  have hnull : ∀ {j}, (dropNulls depth j).unsignZeros = .null ↔ j = .null :=
    unsignZeros_eq_null.trans dropNulls_eq_null
  rw [keptMember_eq, keptMember_eq, Alike]
  by_cases h : member.getD .null = .null
  · rw [if_pos h, hnull.2 h, eq_comm (a := Json.null), hnull]
    simp
  · by_cases h' : member'.getD .null = .null
    · rw [if_neg h, if_pos h', hnull.2 h', hnull]
      simp [h]
    · rw [if_neg h, if_neg h', Option.some.injEq]

/-- Two objects are alike without their null members just when their members are. -/
theorem alike_dropNulls_ofMap {depth : Nat} {m m' : OrdMap String Json} :
    Alike (dropNulls (depth + 1) (ofMap m)) (dropNulls (depth + 1) (ofMap m')) ↔
      ∀ k, Alike (dropNulls depth (entryOrNull m k)) (dropNulls depth (entryOrNull m' k)) := by
  have hkept : ∀ m : OrdMap String Json, (dropNulls (depth + 1) (ofMap m)).unsignZeros =
      ofMap (((m.filter fun _ j => j ≠ .null).map fun _ j => dropNulls depth j).map
        fun _ j => j.unsignZeros) := fun m => congrArg Json.obj (unsignMembers_eq_map _)
  have hentries : ∀ {m m' : OrdMap String Json}, ofMap m = ofMap m' ↔ ∀ k, m.get? k = m'.get? k := by
    intro m m'
    constructor
    · intro h k
      exact congrArg (Entries.lookup k) (Json.obj.inj h)
    · intro h
      rw [OrdMap.ext_get? h]
  rw [Alike, hkept, hkept, hentries]
  refine forall_congr' fun k => ?_
  rw [get?_keptMembers, get?_keptMembers]
  exact keptMember_inj

/-- Values in order differ nowhere just when they are alike without their null members. -/
theorem alike_dropNulls_iff {depth : Nat} {a b : Json} (ha : a.Ordered) (hb : b.Ordered) :
    Alike (dropNulls depth a) (dropNulls depth b) ↔ ∀ path, ¬DiffersAt depth a b path := by
  induction depth generalizing a b with
  | zero => simp [differsAt_zero, dropNulls, Alike]
  | succ depth ih =>
      by_cases hboth : BothObjects a b
      · cases hboth with
        | intro as bs =>
            obtain ⟨m, hm, horder⟩ := ha.exists_map
            obtain ⟨m', hm', horder'⟩ := hb.exists_map
            rw [hm, hm', alike_dropNulls_ofMap]
            simp only [ih (horder _) (horder' _), differsAt_ofMap]
            constructor
            · rintro h path ⟨k, rest, rfl, hrest⟩
              exact h k rest hrest
            · intro h k rest hrest
              exact h (k :: rest) ⟨k, rest, rfl, hrest⟩
      · rw [alike_dropNulls_of_not_both hboth]
        simp [differsAt_whole hboth]

/-! ## What is reported -/

/-- The report of changes lists in strictly ascending order exactly the places at which the values
differ, and is empty if they do not differ. It is the same in both directions. Of values in order
nothing is reported just when they are alike without the null members of their objects, down to the
second level; so if two objects have none there, just when they are alike. -/
theorem changes_reported_exactly (a b : Json) :
    (a.changedPaths b).Pairwise (· < ·) ∧
    (∀ path, path ∈ a.changedPaths b ↔ ChangedAt a b path) ∧
    (Alike a b → a.changedPaths b = []) ∧
    a.changedPaths b = b.changedPaths a ∧
    (Ordered a → Ordered b →
      (a.changedPaths b = [] ↔ Alike (dropNulls 2 a) (dropNulls 2 b)) ∧
      (BothObjects a b → NullFree 2 a → NullFree 2 b → (a.changedPaths b = [] ↔ Alike a b))) := by
  have hnone : Ordered a → Ordered b →
      (a.changedPaths b = [] ↔ Alike (dropNulls 2 a) (dropNulls 2 b)) := fun ha hb =>
    changedPaths_eq_nil.trans (alike_dropNulls_iff ha hb).symm
  refine ⟨?_, fun path => mem_changedPaths_iff, ?_, ?_, fun ha hb => ⟨hnone ha hb, ?_⟩⟩
  · exact (pairwise_sortedDistinct _).imp compareOfLessAndEq_eq_lt.1
  · intro hsame
    rw [changedPaths, hsame, differences_self]
    rfl
  · exact changedPaths_congr fun path => differsAt_comm
  · intro _ hfree hfree'
    rw [hnone ha hb, dropNulls_of_nullFree hfree, dropNulls_of_nullFree hfree']

/-- Two objects that differ in one member of a member. -/
def sampleHost (name : String) : Json :=
  .obj [("kind", .str "Pod"), ("spec", .obj [("hostname", .str name), ("ports", .arr [.int 80])])]

theorem ordered_sampleHost (name : String) : Ordered (sampleHost name) := by
  have hkeys : compare "kind" "spec" = .lt ∧ compare "hostname" "ports" = .lt := by decide
  refine .obj (List.pairwise_pair.2 hkeys.1) ?_
  simp only [List.mem_cons, List.not_mem_nil, or_false, forall_eq_or_imp, forall_eq]
  refine ⟨.str _, .obj (List.pairwise_pair.2 hkeys.2) ?_⟩
  simp only [List.mem_cons, List.not_mem_nil, or_false, forall_eq_or_imp, forall_eq]
  exact ⟨.str _, .arr fun j hj => List.mem_singleton.1 hj ▸ .number _⟩

theorem sample_host_changed :
    Ordered (sampleHost "a") ∧ Ordered (sampleHost "b") ∧
    BothObjects (sampleHost "a") (sampleHost "b") ∧
    NullFree 2 (sampleHost "a") ∧ NullFree 2 (sampleHost "b") ∧
    "spec.hostname" ∈ (sampleHost "a").changedPaths (sampleHost "b") ∧
    (sampleHost "a").changedPaths (sampleHost "b") ≠ [] := by
  have hboth : BothObjects (sampleHost "a") (sampleHost "b") := .intro ..
  have hfree : ∀ name, NullFree 2 (sampleHost name) := fun name => by
    simp [sampleHost, NullFree, int]
  have hhost : ¬Alike (.str "a") (.str "b") := by decide
  obtain ⟨-, hplaces, -, -, hordered⟩ :=
    changes_reported_exactly (sampleHost "a") (sampleHost "b")
  obtain ⟨-, hsame⟩ := hordered (ordered_sampleHost "a") (ordered_sampleHost "b")
  refine ⟨ordered_sampleHost "a", ordered_sampleHost "b", hboth, hfree "a", hfree "b", ?_, ?_⟩
  · exact (hplaces _).2 (.nested "spec" "hostname" hboth (.intro ..) hhost)
  · rw [ne_eq, hsame hboth (hfree "a") (hfree "b")]
    decide

end TabletFleet.Json
