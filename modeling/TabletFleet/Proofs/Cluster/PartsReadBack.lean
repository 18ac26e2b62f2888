import TabletFleet.Cluster.Claim
import TabletFleet.Proofs.Cluster.WrittenForm

set_option autoImplicit false

/-! # Parts of objects are read back

Metadata and the specifications of volume claims read some of their fields by name and carry the others
along. The former are read back one by one; the latter are read as they are if they are in written form, as
they are once they were read from a document (`ObjectMeta.Readable`, `ClaimSpec.Readable`). All that is lost
is the fraction of the second of a deletion, which its text does not tell
(`ObjectMeta.toJson_wholeSeconds`). -/

namespace TabletFleet

open Document

/-! ## Metadata -/

namespace ObjectMeta

/-- What is carried along is in written form, and the deletion has a date of the calendar. -/
structure Readable (m : ObjectMeta) : Prop where
  extra : Shape.readFields Shape.metadataFields m.extra.toList = some m.extra
  deletion : ∀ t, m.deletionTimestamp = some t → t.InCalendar

theorem toJson_wholeSeconds (m : ObjectMeta) : m.wholeSeconds.toJson = m.toJson := by
  have hdeletion : m.wholeSeconds.deletionTimestamp.map (Json.str ·.text)
      = m.deletionTimestamp.map (Json.str ·.text) := by
    rw [wholeSeconds, Option.map_map]
    exact congrArg (Option.map · _) (funext fun t => congrArg Json.str t.text_wholeSeconds)
  rw [toJson, hdeletion]
  rfl

theorem Readable.wholeSeconds {m : ObjectMeta} (h : m.Readable) : m.wholeSeconds.Readable where
  extra := h.extra
  deletion t ht := by
    obtain ⟨t', ht', rfl⟩ := Option.map_eq_some_iff.1 ht
    exact h.deletion t' ht'

theorem time?_text {t : Timestamp} (h : t.InCalendar) : time? (Json.str t.text) = some t.wholeSeconds := by
  rw [time?]
  refine (Option.bind_some _ _).trans ?_
  exact Timestamp.parse?_text h

theorem ofDocument?_toJson {m : ObjectMeta} (h : m.Readable) (hwhole : m.wholeSeconds = m) :
    ofDocument? m.toJson = some m := by
  have hdeletion : ∀ t, m.deletionTimestamp = some t → time? (Json.str t.text) = some t := by
    intro t ht
    have hself : t.wholeSeconds = t := by
      have htime := congrArg deletionTimestamp hwhole
      rw [ObjectMeta.wholeSeconds, ht] at htime
      exact Option.some.inj htime
    rw [time?_text (h.deletion t ht), hself]
  obtain ⟨ms, hwritten, hextra, hget⟩ := Extra.of_write h.extra (by simp)
    (by simp [Shape.metadataFields, Shape.may]) (Eq.refl m.toJson)
  simp only [List.forall_mem_cons] at hget
  obtain ⟨hannotations, hdeleted, hgeneration, hlabels, hname, hns, hversion, huid, -⟩ := hget
  rw [hwritten, ofDocument?, members?_ofMap, Option.bind_eq_bind, Option.bind_some]
  simp only [hextra, optional_of_get? rfl hname fun _ _ => text?_str _,
    optional_of_get? rfl hns fun _ _ => text?_str _,
    optional_of_get? rfl hlabels fun _ _ => stringMap?_ofStringMap _,
    optional_of_get? rfl hannotations fun _ _ => stringMap?_ofStringMap _,
    optional_of_get? rfl huid fun _ _ => text?_str _,
    optional_of_get? rfl hversion fun _ _ => text?_str _,
    optional_of_get? rfl hgeneration fun _ _ => int64?_int _, optional_of_get? rfl hdeleted hdeletion]
  rfl

theorem readable_default : Readable {} where
  extra := Shape.readFields_empty (by decide) rfl
  deletion := nofun

variable {δ : Type} [Document δ] [TellsNull δ]

omit [TellsNull δ] in
theorem inCalendar_of_time? {d : δ} {t : Timestamp} (h : time? d = some t) : t.InCalendar := by
  obtain ⟨text, -, ht⟩ := Option.bind_eq_some_iff.1 h
  exact Timestamp.inCalendar_of_parse? ht

theorem readable_of_ofDocument? {d : δ} {m : ObjectMeta} (h : ofDocument? d = some m) :
    m.Readable := by
  obtain ⟨ms, -, h⟩ := Option.bind_eq_some_iff.1 h
  obtain ⟨name, -, h⟩ := Option.bind_eq_some_iff.1 h
  obtain ⟨ns, -, h⟩ := Option.bind_eq_some_iff.1 h
  obtain ⟨labels, -, h⟩ := Option.bind_eq_some_iff.1 h
  obtain ⟨annotations, -, h⟩ := Option.bind_eq_some_iff.1 h
  obtain ⟨uid, -, h⟩ := Option.bind_eq_some_iff.1 h
  obtain ⟨version, -, h⟩ := Option.bind_eq_some_iff.1 h
  obtain ⟨generation, -, h⟩ := Option.bind_eq_some_iff.1 h
  obtain ⟨deletion, hdeletion, h⟩ := Option.bind_eq_some_iff.1 h
  obtain ⟨extra, hextra, h⟩ := Option.bind_eq_some_iff.1 h
  obtain rfl := Option.some.inj h
  refine ⟨Shape.readFields_written (by decide) hextra, ?_⟩
  rintro t rfl
  obtain ⟨d, -, htime⟩ := of_optional hdeletion
  exact inCalendar_of_time? htime

end ObjectMeta

/-! ## Resources -/

theorem resourceList?_toJson (l : ResourceList) : resourceList? l.toJson = some l :=
  map?_ofMap fun _ _ _ => rfl

theorem ResourceRequirements.ofDocument?_toJson (r : ResourceRequirements) :
    ofDocument? r.toJson = some r := by
  have hnames : ∀ names, list? (fun d => (members? d).bind fun ms => orElse ms "name" "" text?)
      (Json.arr (names.map fun n => .object [("name", .str n)])) = some names := by
    refine fun names => list?_arr fun name _ => ?_
    rw [Json.object, members?_ofMap, Option.bind_some, orElse, optional_toList, OrdMap.get?_ofList_cons]
    rfl
  obtain ⟨ms, hwritten, hget⟩ := Json.of_objectOf (by simp) (Eq.refl r.toJson)
  simp only [List.forall_mem_cons] at hget
  obtain ⟨hclaims, hlimits, hrequests, -⟩ := hget
  rw [hwritten, ofDocument?, members?_ofMap, Option.bind_eq_bind, Option.bind_some]
  simp only [Option.bind_eq_bind, optional_of_get? rfl hclaims fun _ _ => hnames _,
    optional_of_get? rfl hlimits fun _ _ => resourceList?_toJson _,
    optional_of_get? rfl hrequests fun _ _ => resourceList?_toJson _]
  rfl

theorem VolumeResources.ofDocument?_toJson (r : VolumeResources) : ofDocument? r.toJson = some r := by
  obtain ⟨ms, hwritten, hget⟩ := Json.of_objectOf (by simp) (Eq.refl r.toJson)
  simp only [List.forall_mem_cons] at hget
  obtain ⟨hlimits, hrequests, -⟩ := hget
  rw [hwritten, ofDocument?, members?_ofMap, Option.bind_eq_bind, Option.bind_some]
  simp only [optional_of_get? rfl hlimits fun _ _ => resourceList?_toJson _,
    optional_of_get? rfl hrequests fun _ _ => resourceList?_toJson _]
  rfl

/-! ## Volume claims -/

namespace ClaimSpec

/-- What is carried along is in written form. -/
def Readable (s : ClaimSpec) : Prop :=
  Shape.readFields Shape.claimSpecFields s.extra.toList = some s.extra

theorem ofDocument?_toJson {s : ClaimSpec} (h : s.Readable) : ofDocument? s.toJson = some s := by
  obtain ⟨ms, hwritten, hextra, hget⟩ := Extra.of_write h (by simp)
    (by simp [Shape.claimSpecFields, Shape.may]) (Eq.refl s.toJson)
  have hresources := hget _ List.mem_cons_self
  rw [hwritten, ofDocument?, members?_ofMap, Option.bind_eq_bind, Option.bind_some]
  simp only [hextra,
    optional_of_get? rfl hresources fun _ _ => VolumeResources.ofDocument?_toJson _]
  rfl

theorem readable_of_ofDocument? {δ : Type} [Document δ] [TellsNull δ] {d : δ} {s : ClaimSpec}
    (h : ofDocument? d = some s) : s.Readable := by
  obtain ⟨ms, -, h⟩ := Option.bind_eq_some_iff.1 h
  obtain ⟨resources, -, h⟩ := Option.bind_eq_some_iff.1 h
  obtain ⟨extra, hextra, h⟩ := Option.bind_eq_some_iff.1 h
  rw [← Option.some.inj h]
  exact Shape.readFields_written (by decide) hextra

end ClaimSpec

/-! ## Scheduling -/

section

variable {δ : Type} [Document δ] [TellsNull δ] {d : δ}

theorem Affinity.ofDocument?_toJson_of_read {a : Affinity} (h : ofDocument? d = some a) :
    ofDocument? a.toJson = some a := by
  obtain ⟨j, hj, rfl⟩ := Option.map_eq_some_iff.1 h
  rw [ofDocument?, Shape.read_written (by decide) hj, Option.map_some]

theorem Toleration.ofDocument?_toJson_of_read {t : Toleration} (h : ofDocument? d = some t) :
    ofDocument? t.toJson = some t := by
  obtain ⟨j, hj, rfl⟩ := Option.map_eq_some_iff.1 h
  rw [ofDocument?, Shape.read_written (by decide) hj, Option.map_some]

end

end TabletFleet
