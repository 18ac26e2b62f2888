import TabletFleet.Json.Source
import TabletFleet.Proofs.Json.Paths
import TabletFleet.Shard.Resource

set_option autoImplicit false

/-! # Reading what was written

An object that is written from a map gives each of its members once, so a field of it is read by looking
it up in the map (`Document.field?_toList`). Required fields, optional ones and those with a default read
back what was written for them as soon as their values do, and so do lists and maps of values.

The other way round, what comes out of a field was read from some document, or it is the field's default
(`Document.of_optional`, `Document.of_defaulted`). So a property that the readers of the parts establish is
established by the reader of the whole. -/

namespace TabletFleet

namespace Document

variable {δ α : Type}

/-! ## Fields of written objects -/

theorem given_toList (m : OrdMap String δ) (name : String) :
    given m.toList name = (m.get? name).toList := by
  have hnodup : (m.entries.map (·.1)).Nodup := m.nodup_keys
  change (m.entries.filter (·.1 == name)).map (·.2) = (Entries.lookup name m.entries).toList
  generalize m.entries = entries at hnodup
  induction entries with
  | nil => rfl
  | cons e entries ih =>
      obtain ⟨hnew, hrest⟩ := List.nodup_cons.1 hnodup
      rw [List.filter_cons, Entries.lookup]
      by_cases h : e.1 = name
      · subst h
        have hnone : entries.filter (·.1 == e.1) = [] := by
          rw [List.filter_eq_nil_iff]
          intro e' he' heq
          exact hnew (List.mem_map.2 ⟨e', he', beq_iff_eq.1 heq⟩)
        simp [hnone]
      · have hne : compare name e.1 ≠ .eq := fun heq => h (Std.LawfulEqCmp.eq_of_compare heq).symm
        rw [if_neg (by simpa using h), if_neg hne]
        exact ih hrest

theorem field?_toList (m : OrdMap String δ) (name : String) (read : δ → Option α) :
    field? m.toList name read = (m.get? name).elim (some none) fun d => (read d).map some := by
  rw [field?, given_toList]
  cases m.get? name with
  | none => rfl
  | some d => cases h : read d <;> simp [h]

theorem required_toList (m : OrdMap String δ) (name : String) (read : δ → Option α) :
    required m.toList name read = (m.get? name).bind read := by
  rw [required, field?_toList]
  cases m.get? name with
  | none => rfl
  | some d => cases h : read d <;> simp [h]

theorem defaulted_toList (m : OrdMap String δ) (name : String) (absent : α) (read : δ → Option α) :
    defaulted m.toList name absent read = (m.get? name).elim (some absent) read := by
  rw [defaulted, field?_toList]
  cases m.get? name with
  | none => rfl
  | some d => cases h : read d <;> simp [h]

variable [Document δ]

/-- A value, or null for none. -/
def nullable? (read : δ → Option α) (d : δ) : Option (Option α) :=
  if isNull d then some none else (read d).map some

theorem optional_toList (m : OrdMap String δ) (name : String) (read : δ → Option α) :
    optional m.toList name read = (m.get? name).elim (some none) (nullable? read) := by
  change (field? m.toList name (nullable? read)).map (·.join) = _
  rw [field?_toList]
  cases m.get? name with
  | none => rfl
  | some d => cases h : nullable? read d <;> simp [h]

theorem members?_ofMap (m : OrdMap String Json) : members? (Json.ofMap m) = some m.toList := rfl

/-- A map has no key twice, so it is a record, whatever the fields. -/
theorem record?_ofMap (fields : List String) (m : OrdMap String Json) :
    record? fields (Json.ofMap m) = some m.toList := by
  refine if_pos (List.all_eq_true.2 fun name _ => decide_eq_true ?_)
  rw [given_toList]
  cases m.get? name <;> simp

/-- A record that is written from members with different names is read from a map in which each of them is
found. -/
theorem record?_object {members : List (String × Json)} (hnodup : (members.map (·.1)).Nodup) {j : Json}
    (hj : j = Json.object members) :
    ∃ m : OrdMap String Json, (∀ fields, record? fields j = some m.toList) ∧
      ∀ e ∈ members, m.get? e.1 = some e.2 := by
  subst hj
  exact ⟨_, fun fields => record?_ofMap fields _,
    fun _ he => (OrdMap.get?_ofList_of_nodup hnodup).2 he⟩

/-! ## Values -/

theorem text?_str (s : String) : text? (Json.str s) = some s := rfl

theorem flag?_bool (b : Bool) : flag? (Json.bool b) = some b := rfl

theorem intIn?_int {lo hi n : Int} (hlo : lo ≤ n) (hhi : n ≤ hi) :
    intIn? lo hi (Json.int n) = some n := by
  change (some n).filter _ = some n
  rw [Option.filter_some, if_pos (by simp [hlo, hhi])]

/-- A number that was read is in range when it is read again. -/
theorem intIn?_written {lo hi : Int} {d : δ} {n : Int} (h : intIn? lo hi d = some n) :
    intIn? lo hi (Json.int n) = some n := by
  obtain ⟨-, hrange⟩ := Option.filter_eq_some_iff.1 h
  obtain ⟨hlo, hhi⟩ : lo ≤ n ∧ n ≤ hi := by simpa using hrange
  exact intIn?_int hlo hhi

theorem int32?_int (n : Int32) : int32? (Json.int n.toInt) = some n := by
  have hlo : minInt32 ≤ n.toInt := n.le_toInt
  have hhi : n.toInt ≤ maxInt32 := Int.le_of_lt_add_one n.toInt_lt
  rw [int32?, intIn?_int hlo hhi, Option.map_some, Int32.ofInt_toInt]

theorem int64?_int (n : Int64) : int64? (Json.int n.toInt) = some n := by
  have hlo : minInt64 ≤ n.toInt := n.le_toInt
  have hhi : n.toInt ≤ maxInt64 := Int.le_of_lt_add_one n.toInt_lt
  rw [int64?, intIn?_int hlo hhi, Option.map_some, Int64.ofInt_toInt]

/-- Values that are read one by one after being written one by one; `f` is what writing does to them. -/
theorem mapM_map_write {β : Type} {read : β → Option α} {write : α → β} {f : α → α} {l : List α}
    (h : ∀ a ∈ l, read (write a) = some (f a)) : (l.map write).mapM read = some (l.map f) := by
  induction l with
  | nil => rfl
  | cons a l ih =>
      rw [List.map_cons, List.mapM_cons, h a List.mem_cons_self,
        ih fun a' ha' => h a' (List.mem_cons_of_mem _ ha')]
      rfl

theorem list?_arr_map {read : Json → Option α} {write : α → Json} {f : α → α} {l : List α}
    (h : ∀ a ∈ l, read (write a) = some (f a)) : list? read (.arr (l.map write)) = some (l.map f) :=
  mapM_map_write h

theorem list?_arr {read : Json → Option α} {write : α → Json} {l : List α}
    (h : ∀ a ∈ l, read (write a) = some a) : list? read (.arr (l.map write)) = some l := by
  have hlist := @list?_arr_map _ read write id l h
  rwa [List.map_id] at hlist

theorem map?_ofMap {read : Json → Option α} {write : α → Json} {m : OrdMap String α}
    (h : ∀ k a, m.get? k = some a → read (write a) = some a) :
    map? read (Json.ofMap (m.map fun _ a => write a)) = some m := by
  have hentries : ((m.map fun _ a => write a).toList.mapM fun e => (read e.2).map (e.1, ·))
      = some m.toList := by
    refine (mapM_map_write fun e he => ?_).trans (congrArg some (List.map_id _))
    rw [h e.1 e.2 (OrdMap.mem_toList.1 he)]
    rfl
  rw [map?, members?_ofMap]
  refine (Option.bind_some _ _).trans ?_
  rw [hentries]
  exact congrArg some (OrdMap.ofList_toList m)

theorem stringMap?_ofStringMap (m : StringMap) : stringMap? (Json.ofStringMap m) = some m :=
  @map?_ofMap _ text? .str m fun _ _ _ => rfl

/-- Lists of values that are read as themselves. -/
theorem list?_written {read : Json → Option Json} {items : List Json}
    (h : ∀ j ∈ items, read j = some j) : list? read (.arr items) = some items := by
  have hitems := @list?_arr _ read id items h
  rwa [List.map_id] at hitems

/-- Maps of values that are read as themselves. -/
theorem map?_written {read : Json → Option Json} {m : OrdMap String Json}
    (h : ∀ k j, m.get? k = some j → read j = some j) : map? read (Json.ofMap m) = some m := by
  have hentries := @map?_ofMap _ read id m h
  have hself : (m.map fun _ j => id j) = m := OrdMap.ext_get? fun k => by simp
  rwa [hself] at hentries

theorem nullable?_null (read : Json → Option α) : nullable? read .null = some none := rfl

/-- What is read as something is not null, if nothing is read from null. -/
theorem nullable?_of_read {read : Json → Option α} (hnull : read .null = none) {j : Json} {a : α}
    (h : read j = some a) : nullable? read j = some (some a) := by
  have hj : j ≠ .null := by
    rintro rfl
    rw [hnull] at h
    cases h
  rw [nullable?, if_neg (by simp [isNull, hj]), h, Option.map_some]

theorem nullable?_orNull {read : Json → Option α} {write : α → Json} (hnull : read .null = none)
    {a? : Option α} (h : ∀ a, a? = some a → read (write a) = some a) :
    nullable? read (.orNull (a?.map write)) = some a? := by
  cases a? with
  | none => exact nullable?_null read
  | some a => exact nullable?_of_read hnull (h a rfl)

/-- An optional value that is left out if there is none; `f` is what writing does to it. -/
theorem optional_map_of_get? {read : Json → Option α} {write : α → Json} {f : α → α}
    (hnull : read .null = none) {m : OrdMap String Json} {name : String} {a? : Option α}
    (hget : m.get? name = a?.map write) (h : ∀ a, a? = some a → read (write a) = some (f a)) :
    optional m.toList name read = some (a?.map f) := by
  rw [optional_toList, hget]
  cases a? with
  | none => rfl
  | some a => exact nullable?_of_read hnull (h a rfl)

theorem optional_of_get? {read : Json → Option α} {write : α → Json} (hnull : read .null = none)
    {m : OrdMap String Json} {name : String} {a? : Option α} (hget : m.get? name = a?.map write)
    (h : ∀ a, a? = some a → read (write a) = some a) : optional m.toList name read = some a? := by
  have hvalue := @optional_map_of_get? _ read write id hnull m name a? hget h
  rwa [Option.map_id, id] at hvalue

/-- A value that is always written is read whatever its absence would mean. -/
theorem orElse_of_get? {read : Json → Option α} (hnull : read .null = none) {m : OrdMap String Json}
    {name : String} {j : Json} {absent a : α} (hget : m.get? name = some j) (h : read j = some a) :
    orElse m.toList name absent read = some a := by
  rw [orElse, optional_toList, hget, Option.elim_some, nullable?_of_read hnull h]
  rfl

/-! ## Where what is read comes from -/

variable {ms : Members δ} {name : String} {read : δ → Option α} {a : α}

theorem exists_of_mem_mapM {β : Type} {read : β → Option α} {l : List β} {as : List α}
    (h : l.mapM read = some as) (ha : a ∈ as) : ∃ b ∈ l, read b = some a := by
  induction l generalizing as with
  | nil =>
      rw [List.mapM_nil] at h
      rw [← Option.some.inj h] at ha
      cases ha
  | cons b l ih =>
      rw [List.mapM_cons] at h
      obtain ⟨a', ha', h⟩ := Option.bind_eq_some_iff.1 h
      obtain ⟨as', has', h⟩ := Option.bind_eq_some_iff.1 h
      rw [← Option.some.inj h] at ha
      rcases List.mem_cons.1 ha with rfl | ha
      · exact ⟨b, List.mem_cons_self, ha'⟩
      · obtain ⟨b', hb', hread⟩ := ih has' ha
        exact ⟨b', List.mem_cons_of_mem _ hb', hread⟩

omit [Document δ] in
theorem of_field? (h : field? ms name read = some (some a)) : ∃ d, read d = some a := by
  obtain ⟨as, has, hlast⟩ := Option.map_eq_some_iff.1 h
  obtain ⟨d, -, hd⟩ := exists_of_mem_mapM has (List.mem_of_getLast? hlast)
  exact ⟨d, hd⟩

omit [Document δ] in
theorem of_required (h : required ms name read = some a) : ∃ d, read d = some a := by
  rw [required, Option.join_eq_some_iff] at h
  exact of_field? h

theorem of_optional (h : optional ms name read = some (some a)) :
    ∃ d, isNull d = false ∧ read d = some a := by
  obtain ⟨a??, hfield, hjoin⟩ := Option.map_eq_some_iff.1 h
  rw [Option.join_eq_some_iff.1 hjoin] at hfield
  obtain ⟨d, hd⟩ := of_field? hfield
  split at hd
  · cases Option.some.inj hd
  · next hnull =>
      obtain ⟨a', ha', heq⟩ := Option.map_eq_some_iff.1 hd
      exact ⟨d, Bool.eq_false_iff.2 hnull, by rw [ha', heq]⟩

theorem of_orElse {absent : α} (h : orElse ms name absent read = some a) :
    a = absent ∨ ∃ d, read d = some a := by
  obtain ⟨a?, hoptional, ha⟩ := Option.map_eq_some_iff.1 h
  cases a? with
  | none => exact .inl ha.symm
  | some a' =>
      obtain rfl : a' = a := ha
      obtain ⟨d, -, hd⟩ := of_optional hoptional
      exact .inr ⟨d, hd⟩

omit [Document δ] in
theorem of_defaulted {absent : α} (h : defaulted ms name absent read = some a) :
    a = absent ∨ ∃ d, read d = some a := by
  obtain ⟨a?, hfield, ha⟩ := Option.map_eq_some_iff.1 h
  cases a? with
  | none => exact .inl ha.symm
  | some a' =>
      obtain rfl : a' = a := ha
      exact .inr (of_field? hfield)

theorem of_list? {d : δ} {as : List α} (h : list? read d = some as) (ha : a ∈ as) :
    ∃ d', read d' = some a := by
  obtain ⟨ds, -, h⟩ := Option.bind_eq_some_iff.1 h
  obtain ⟨d', -, hd'⟩ := exists_of_mem_mapM h ha
  exact ⟨d', hd'⟩

theorem of_map? {d : δ} {m : OrdMap String α} (h : map? read d = some m) {k : String}
    (ha : m.get? k = some a) : ∃ d', read d' = some a := by
  obtain ⟨ms, -, h⟩ := Option.bind_eq_some_iff.1 h
  obtain ⟨entries, hentries, h⟩ := Option.bind_eq_some_iff.1 h
  rw [← Option.some.inj h] at ha
  obtain ⟨earlier, later, rfl, -⟩ := OrdMap.get?_ofList_eq_some.1 ha
  obtain ⟨m, -, hm⟩ := exists_of_mem_mapM hentries (List.mem_append_right _ List.mem_cons_self)
  obtain ⟨a', ha', heq⟩ := Option.map_eq_some_iff.1 hm
  exact ⟨m.2, by rw [ha', (Prod.mk.inj heq).2]⟩

/-! ## Null -/

/-- Nothing but null has null for its value. This is so in JSON; in YAML numbers that JSON does not have are
null as well. -/
class TellsNull (δ : Type) [Document δ] : Prop where
  isNull_of_json? {d : δ} : json? d = some .null → isNull d = true

instance : TellsNull Json where
  isNull_of_json? h := decide_eq_true (Option.some.inj h)

instance : TellsNull Json.Source where
  isNull_of_json? {d} h := by
    cases d with
    | null => rfl
    | bool _ => cases h
    | number n => cases n <;> cases h
    | str s => cases s <;> cases h
    | arr items =>
        obtain ⟨_, -, h⟩ := Option.map_eq_some_iff.1 h
        cases h
    | obj members =>
        obtain ⟨_, -, h⟩ := Option.map_eq_some_iff.1 h
        cases h

instance [Layered δ] [TellsNull δ] : TellsNull (Nested δ) where
  isNull_of_json? {d} h := by
    change (if d.isWithin then json? d.part else none) = some .null at h
    split at h
    · exact TellsNull.isNull_of_json? (d := d.part) h
    · cases h

end Document

end TabletFleet
