import TabletFleet.Cluster.Shape.Table
import TabletFleet.Cluster.ObjectMeta
import TabletFleet.Proofs.Document
import TabletFleet.Proofs.TimestampText

set_option autoImplicit false

/-! # Written forms are read as they are

Reading a part of an object by its shape gives this part in written form, and what is in written form is
read as what it is (`Shape.read_written`). This goes by recursion over the shape. A record takes two things
for it: no two of its fields have one name, since fields are read apart from each other and then entered
into one map, and a field that is always written can be read with its empty value. Both can be computed
from the shape (`Shape.isSound`). -/

namespace TabletFleet

open Document

namespace Shape

/-! ## Sound shapes -/

mutual

/-- Fields that stand next to each other have different names, and zero is in every range. -/
def isSound : Shape → Bool
  | .int lo hi => lo ≤ 0 && 0 ≤ hi
  | .list item | .map item => isSound item
  | .record fields => areSound fields
  | _ => true

def areSound : List (String × Bool × Shape) → Bool
  | [] => true
  | (name, _, s) :: fields => !(fields.map (·.1)).contains name && isSound s && areSound fields

end

theorem areSound_cons {name : String} {always : Bool} {s : Shape}
    {fields : List (String × Bool × Shape)} :
    areSound ((name, always, s) :: fields) = true ↔
      name ∉ fields.map (·.1) ∧ s.isSound = true ∧ areSound fields = true := by
  rw [areSound, Bool.and_eq_true, Bool.and_eq_true, Bool.not_eq_true', and_assoc,
    ← Bool.not_eq_true, List.contains_iff_mem]

/-! ## Fields -/

variable {δ : Type} [Document δ]

theorem readFields_cons {name : String} {always : Bool} {s : Shape}
    {fields : List (String × Bool × Shape)} {ms : Members δ} {m : OrdMap String Json} :
    readFields ((name, always, s) :: fields) ms = some m ↔
      ∃ value? others, optional ms name (read s) = some value? ∧ readFields fields ms = some others ∧
        m = match value? with
          | some j => others.insert name j
          | none => if always then others.insert name s.empty else others := by
  rw [readFields]
  constructor
  · intro h
    obtain ⟨value?, hvalue, h⟩ := Option.bind_eq_some_iff.1 h
    obtain ⟨others, hothers, h⟩ := Option.bind_eq_some_iff.1 h
    refine ⟨value?, others, hvalue, hothers, ?_⟩
    cases value? <;> exact (Option.some.inj h).symm
  · rintro ⟨value?, others, hvalue, hothers, rfl⟩
    rw [hvalue, hothers]
    cases value? <;> rfl

/-- Nothing is read but the fields. -/
theorem readFields_keys {fields : List (String × Bool × Shape)} {ms : Members δ}
    {m : OrdMap String Json} (h : readFields fields ms = some m) {k : String}
    (hk : k ∉ fields.map (·.1)) : m.get? k = none := by
  induction fields generalizing m with
  | nil =>
      rw [← Option.some.inj h]
      rfl
  | cons f fields ih =>
      obtain ⟨name, always, s⟩ := f
      obtain ⟨value?, others, -, hothers, rfl⟩ := readFields_cons.1 h
      obtain ⟨hname, hrest⟩ := not_or.1 (mt List.mem_cons.2 hk)
      have hother := ih hothers hrest
      split
      · rw [OrdMap.get?_insert, if_neg hname, hother]
      · split
        · rw [OrdMap.get?_insert, if_neg hname, hother]
        · exact hother

/-- Members that are no fields do not matter. -/
theorem readFields_congr {fields : List (String × Bool × Shape)} {m m' : OrdMap String δ}
    (h : ∀ k ∈ fields.map (·.1), m.get? k = m'.get? k) :
    readFields fields m.toList = readFields fields m'.toList := by
  induction fields with
  | nil => rfl
  | cons f fields ih =>
      obtain ⟨name, always, s⟩ := f
      have hname := h name List.mem_cons_self
      rw [readFields, readFields, optional_toList, optional_toList, hname,
        ih fun k hk => h k (List.mem_cons_of_mem _ hk)]

/-! ## Empty values -/

theorem readFields_nil {fields : List (String × Bool × Shape)} (hsound : areSound fields = true) :
    readFields fields ([] : Members δ) = some (.ofList (emptyFields fields)) := by
  induction fields with
  | nil => rfl
  | cons f fields ih =>
      obtain ⟨name, always, s⟩ := f
      obtain ⟨hname, -, hfields⟩ := areSound_cons.1 hsound
      have hothers := ih hfields
      refine readFields_cons.2 ⟨none, _, rfl, hothers, ?_⟩
      cases always with
      | false => rfl
      | true =>
          refine OrdMap.ext_get? fun k => ?_
          rw [emptyFields, if_pos rfl, OrdMap.get?_ofList_cons]
          simp only [if_true, OrdMap.get?_insert]
          by_cases hk : k = name
          · rw [hk, readFields_keys hothers hname, if_pos rfl]
            rfl
          · rw [if_neg hk, if_neg hk, Option.or_none]

/-- Nothing is read as nothing, if no field is always written. -/
theorem readFields_empty {fields : List (String × Bool × Shape)} (hsound : areSound fields = true)
    (hempty : emptyFields fields = []) :
    readFields fields (OrdMap.empty : OrdMap String Json).toList = some .empty := by
  have hnil := readFields_nil (δ := Json) hsound
  rw [hempty] at hnil
  exact hnil

theorem read_time {t : Timestamp} (h : t.InCalendar) :
    read .time (Json.str t.text) = some (.str t.text) := by
  rw [read]
  refine (Option.bind_some _ _).trans ?_
  rw [Timestamp.parse?_text h]
  exact congrArg (some <| Json.str ·) t.text_wholeSeconds

theorem exists_read_empty {s : Shape} (hsound : s.isSound = true) :
    ∃ d : Json, read s d = some s.empty := by
  cases s with
  | int lo hi =>
      obtain ⟨hlo, hhi⟩ : lo ≤ 0 ∧ 0 ≤ hi := by simpa [isSound] using hsound
      exact ⟨.int 0, by rw [read, intIn?_int hlo hhi]; rfl⟩
  | text => exact ⟨.str "", rfl⟩
  | flag => exact ⟨.bool false, rfl⟩
  | intOrText => exact ⟨.int 0, rfl⟩
  | time => exact ⟨_, read_time (t := .epoch) ⟨by decide, by decide⟩⟩
  | bytes => exact ⟨.str "", rfl⟩
  | anything => exact ⟨.null, rfl⟩
  | list item => exact ⟨.arr [], rfl⟩
  | map item => exact ⟨.obj [], rfl⟩
  | record fields =>
      refine ⟨.obj [], ?_⟩
      have hfields := readFields_nil (δ := Json) hsound
      rw [read]
      refine (Option.bind_some _ _).trans ?_
      rw [hfields]
      rfl

/-! ## Reading again -/

/-- What is read from anything but null is not null. -/
theorem isNull_of_read [TellsNull δ] {s : Shape} {d : δ} (h : read s d = some .null) :
    isNull d = true := by
  cases s with
  | anything => exact TellsNull.isNull_of_json? h
  | text | flag | int _ _ | list _ | map _ =>
      obtain ⟨_, -, h⟩ := Option.map_eq_some_iff.1 h
      cases h
  | intOrText =>
      rw [read] at h
      split at h
      · cases Option.some.inj h
      · obtain ⟨_, -, h⟩ := Option.map_eq_some_iff.1 h
        cases h
  | time =>
      obtain ⟨_, -, h⟩ := Option.bind_eq_some_iff.1 h
      obtain ⟨_, -, h⟩ := Option.bind_eq_some_iff.1 h
      cases Option.some.inj h
  | bytes =>
      rw [read] at h
      split at h
      · assumption
      · obtain ⟨_, -, h⟩ := Option.map_eq_some_iff.1 h
        cases h
  | record _ =>
      obtain ⟨_, -, h⟩ := Option.bind_eq_some_iff.1 h
      obtain ⟨_, -, h⟩ := Option.bind_eq_some_iff.1 h
      cases Option.some.inj h

/-- A field that is entered is read as what was entered. -/
theorem readFields_insert {name : String} {always : Bool} {s : Shape}
    {fields : List (String × Bool × Shape)} {others : OrdMap String Json} (hname : name ∉ fields.map (·.1))
    (hothers : readFields fields others.toList = some others) {j : Json} (hj : read s j = some j)
    (hnull : j = .null → always = true ∧ s.empty = .null) :
    readFields ((name, always, s) :: fields) (others.insert name j).toList
      = some (others.insert name j) := by
  have hrest : readFields fields (others.insert name j).toList = some others := by
    rw [← hothers]
    refine readFields_congr fun k hk => ?_
    have hne : k ≠ name := fun heq => hname (heq ▸ hk)
    rw [OrdMap.get?_insert, if_neg hne]
  refine readFields_cons.2 ⟨if j = .null then none else some j, others, ?_, hrest, ?_⟩
  · rw [optional_toList, OrdMap.get?_insert, if_pos rfl, Option.elim_some, nullable?]
    by_cases h : j = .null
    · rw [if_pos h, h]
      rfl
    · rw [if_neg h, if_neg (by simp [isNull, h]), hj, Option.map_some]
  · by_cases h : j = .null
    · obtain ⟨halways, hempty⟩ := hnull h
      simp [h, halways, hempty]
    · simp [h]

mutual

/-- What was read is in written form, which is read as it is. -/
theorem read_written {s : Shape} (hsound : s.isSound = true) {δ : Type} [Document δ] [TellsNull δ]
    {d : δ} {j : Json} (h : read s d = some j) : read s j = some j := by
  cases s with
  | text | flag =>
      obtain ⟨_, -, rfl⟩ := Option.map_eq_some_iff.1 h
      rfl
  | anything => rfl
  | int lo hi =>
      obtain ⟨n, hn, rfl⟩ := Option.map_eq_some_iff.1 h
      rw [read, intIn?_written hn, Option.map_some]
  | intOrText =>
      rw [read] at h
      split at h
      · rw [← Option.some.inj h]
        rfl
      · obtain ⟨n, hn, rfl⟩ := Option.map_eq_some_iff.1 h
        change (intIn? minInt32 maxInt32 (Json.int n)).map Json.int = _
        rw [intIn?_written hn, Option.map_some]
  | time =>
      obtain ⟨_, -, h⟩ := Option.bind_eq_some_iff.1 h
      obtain ⟨t, ht, h⟩ := Option.bind_eq_some_iff.1 h
      rw [← Option.some.inj h]
      exact read_time (Timestamp.inCalendar_of_parse? ht)
  | bytes =>
      rw [read] at h
      split at h
      · rw [← Option.some.inj h]
        rfl
      · obtain ⟨text, htext, rfl⟩ := Option.map_eq_some_iff.1 h
        obtain ⟨-, hbase⟩ := Option.filter_eq_some_iff.1 htext
        change ((some text).filter _).map Json.str = _
        rw [Option.filter_some, if_pos hbase, Option.map_some]
  | list item =>
      obtain ⟨items, hitems, rfl⟩ := Option.map_eq_some_iff.1 h
      rw [read, list?_written fun j hj => ?_, Option.map_some]
      obtain ⟨d', hd'⟩ := of_list? hitems hj
      exact read_written (s := item) hsound hd'
  | map item =>
      obtain ⟨m, hm, rfl⟩ := Option.map_eq_some_iff.1 h
      rw [read, map?_written fun k j hj => ?_, Option.map_some]
      obtain ⟨d', hd'⟩ := of_map? hm hj
      exact read_written (s := item) hsound hd'
  | record fields =>
      obtain ⟨ms, -, h⟩ := Option.bind_eq_some_iff.1 h
      obtain ⟨m, hm, h⟩ := Option.bind_eq_some_iff.1 h
      rw [← Option.some.inj h, read, members?_ofMap]
      refine (Option.bind_some _ _).trans ?_
      rw [readFields_written hsound hm]
      rfl

theorem readFields_written {fields : List (String × Bool × Shape)} (hsound : areSound fields = true)
    {δ : Type} [Document δ] [TellsNull δ] {ms : Members δ} {m : OrdMap String Json}
    (h : readFields fields ms = some m) : readFields fields m.toList = some m := by
  cases fields with
  | nil =>
      rw [← Option.some.inj h]
      rfl
  | cons f fields =>
      obtain ⟨name, always, s⟩ := f
      obtain ⟨hname, hs, hfields⟩ := areSound_cons.1 hsound
      obtain ⟨value?, others, hvalue, hothers, rfl⟩ := readFields_cons.1 h
      have hrest := readFields_written hfields hothers
      cases value? with
      | some j =>
          -- what is read as null is null, and null is not the value of a field
          obtain ⟨d, hd, hread⟩ := of_optional hvalue
          refine readFields_insert hname hrest (read_written hs hread) fun hnull => ?_
          rw [hnull] at hread
          rw [isNull_of_read hread] at hd
          cases hd
      | none =>
          cases always with
          | true =>
              -- the empty value was not read here, but it can be
              obtain ⟨d, hread⟩ := exists_read_empty hs
              exact readFields_insert hname hrest (read_written hs hread) fun hnull => ⟨rfl, hnull⟩
          | false =>
              refine readFields_cons.2 ⟨none, others, ?_, hrest, rfl⟩
              change optional others.toList name _ = _
              rw [optional_toList, readFields_keys hothers hname]
              rfl

end

end Shape

/-! ## Fields that are carried along -/

/-- Of an object that is written from named fields and ones that are carried along, the latter are read as
they are, and the former are found under their names. -/
theorem Extra.of_write {fields : List (String × Bool × Shape)} {extra : Extra}
    (hextra : Shape.readFields fields extra.toList = some extra) {named : List (String × Option Json)}
    (hnodup : (named.map (·.1)).Nodup) (hnamed : ∀ k ∈ named.map (·.1), k ∉ fields.map (·.1))
    {j : Json} (hj : j = extra.write named) :
    ∃ m : OrdMap String Json, j = .ofMap m ∧ Shape.readFields fields m.toList = some extra ∧
      ∀ f ∈ named, m.get? f.1 = f.2 := by
  refine ⟨_, hj, ?_, fun f hf => ?_⟩
  · refine (Shape.readFields_congr fun k hk => ?_).trans hextra
    refine OrdMap.get?_insertMany_of_notMem fun hmem => ?_
    obtain ⟨e, he, rfl⟩ := List.mem_map.1 hmem
    obtain ⟨f, hf, he⟩ := List.mem_filterMap.1 he
    obtain ⟨j, -, rfl⟩ := Option.map_eq_some_iff.1 he
    exact hnamed f.1 (List.mem_map_of_mem hf) hk
  · have hname : f.1 ∈ named.map (·.1) := List.mem_map_of_mem hf
    rw [Json.get?_insertMany_fields, Shape.readFields_keys hextra (hnamed f.1 hname),
      Json.lastValue_of_mem hnodup hf]

end TabletFleet
