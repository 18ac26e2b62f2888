import TabletFleet.Cluster.ConfigMap
import TabletFleet.Cluster.Pod
import TabletFleet.Proofs.Cluster.PartsReadBack

set_option autoImplicit false

/-! # Objects are read back

Pods, volume claims and config maps are read as what they were written from, in their written form: their
times have lost the fractions of seconds. They are if what they carry along is in written form and their
times have dates of the calendar (`Pod.Readable` and the like), which is so for all that was ever read from a
document. -/

namespace TabletFleet

open Document

/-- What is written of the object is read as the object in its written form. -/
def ReadsBack {K : Type} [ManagedObject K] (object : K) : Prop :=
  ManagedObject.ofDocument? (ManagedObject.toJson object) = some (ManagedObject.written object)

/-- What every written object says of its kind is accepted. -/
theorem checkKind_toList {kind : String} {m : OrdMap String Json}
    (hversion : m.get? "apiVersion" = some (.str "v1")) (hkind : m.get? "kind" = some (.str kind)) :
    checkKind kind m.toList = some () := by
  rw [checkKind]
  simp [given_toList, hversion, hkind, text?_str]

/-! ## Conditions -/

namespace Condition

/-- What is carried along is in written form, and the last transition has a date of the calendar. -/
structure Readable (c : Condition) : Prop where
  extra : Shape.readFields Shape.conditionFields c.extra.toList = some c.extra
  transition : ∀ t, c.lastTransitionTime = some t → t.InCalendar

theorem ofDocument?_toJson {c : Condition} (h : c.Readable) : ofDocument? c.toJson = some c.written := by
  obtain ⟨ms, hwritten, hextra, hget⟩ := Extra.of_write h.extra (by simp)
    (by simp [Shape.conditionFields, Shape.may]) (Eq.refl c.toJson)
  simp only [List.forall_mem_cons] at hget
  obtain ⟨htype, hstatus, htransition, -⟩ := hget
  rw [hwritten, ofDocument?, members?_ofMap, Option.bind_eq_bind, Option.bind_some]
  simp only [hextra, orElse_of_get? rfl htype (text?_str _), orElse_of_get? rfl hstatus (text?_str _),
    optional_map_of_get? rfl htransition fun t ht => ObjectMeta.time?_text (h.transition t ht)]
  rfl

theorem list?_toJson {cs : List Condition} (h : ∀ c ∈ cs, c.Readable) :
    list? ofDocument? (Json.arr (cs.map toJson)) = some (cs.map written) :=
  list?_arr_map fun c hc => ofDocument?_toJson (h c hc)

end Condition

/-! ## Volume claims -/

namespace ClaimStatus

/-- What is carried along is in written form, and the conditions are readable. -/
structure Readable (s : ClaimStatus) : Prop where
  extra : Shape.readFields Shape.claimStatusFields s.extra.toList = some s.extra
  conditions : ∀ cs, s.conditions = some cs → ∀ c ∈ cs, c.Readable

theorem ofDocument?_toJson {s : ClaimStatus} (h : s.Readable) :
    ofDocument? s.toJson = some s.written := by
  obtain ⟨ms, hwritten, hextra, hget⟩ := Extra.of_write h.extra (by simp)
    (by simp [Shape.claimStatusFields, Shape.may]) (Eq.refl s.toJson)
  simp only [List.forall_mem_cons] at hget
  obtain ⟨hphase, hconditions, -⟩ := hget
  rw [hwritten, ofDocument?, members?_ofMap, Option.bind_eq_bind, Option.bind_some]
  simp only [hextra, optional_of_get? rfl hphase fun _ _ => text?_str _,
    optional_map_of_get? rfl hconditions fun cs hcs => Condition.list?_toJson (h.conditions cs hcs)]
  rfl

end ClaimStatus

theorem ObjectMeta.Readable.reads {m : ObjectMeta} (h : m.Readable) :
    ObjectMeta.ofDocument? m.toJson = some m.wholeSeconds := by
  rw [← toJson_wholeSeconds]
  exact ofDocument?_toJson h.wholeSeconds m.wholeSeconds_wholeSeconds

namespace Claim

/-- All parts of the claim are readable. -/
structure Readable (c : Claim) : Prop where
  metadata : c.metadata.Readable
  spec : ∀ s, c.spec = some s → s.Readable
  status : ∀ s, c.status = some s → s.Readable

theorem readsBack {c : Claim} (h : c.Readable) : ReadsBack c := by
  change ofDocument? c.toJson = some c.written
  obtain ⟨ms, hms, hget⟩ := Json.of_objectOf (by simp [objectHead]) (Eq.refl c.toJson)
  simp only [objectHead, List.cons_append, List.nil_append, List.forall_mem_cons] at hget
  obtain ⟨hversion, hkind, hmetadata, hspec, hstatus, -⟩ := hget
  rw [hms, ofDocument?, members?_ofMap, Option.bind_eq_bind, Option.bind_some]
  simp only [checkKind_toList hversion hkind, orElse_of_get? rfl hmetadata h.metadata.reads,
    optional_of_get? rfl hspec fun s hs => ClaimSpec.ofDocument?_toJson (h.spec s hs),
    optional_map_of_get? rfl hstatus fun s hs => ClaimStatus.ofDocument?_toJson (h.status s hs)]
  rfl

end Claim

/-! ## Config maps -/

namespace ConfigMap

/-- What is carried along is in written form, and the metadata are readable. -/
structure Readable (c : ConfigMap) : Prop where
  metadata : c.metadata.Readable
  extra : Shape.readFields Shape.configMapFields c.extra.toList = some c.extra

theorem readsBack {c : ConfigMap} (h : c.Readable) : ReadsBack c := by
  change ofDocument? c.toJson = some c.written
  obtain ⟨ms, hms, hextra, hget⟩ := Extra.of_write h.extra (by simp [objectHead])
    (by simp [objectHead, Shape.configMapFields, Shape.may]) (Eq.refl c.toJson)
  simp only [objectHead, List.cons_append, List.nil_append, List.forall_mem_cons] at hget
  obtain ⟨hversion, hkind, hmetadata, hdata, -⟩ := hget
  rw [hms, ofDocument?, members?_ofMap, Option.bind_eq_bind, Option.bind_some]
  simp only [hextra, checkKind_toList hversion hkind, orElse_of_get? rfl hmetadata h.metadata.reads,
    optional_of_get? rfl hdata fun _ _ => stringMap?_ofStringMap _]
  rfl

end ConfigMap

/-! ## Pods -/

namespace ContainerPort

/-- What is carried along is in written form. -/
def Readable (p : ContainerPort) : Prop :=
  Shape.readFields Shape.portFields p.extra.toList = some p.extra

theorem ofDocument?_toJson {p : ContainerPort} (h : p.Readable) : ofDocument? p.toJson = some p := by
  obtain ⟨ms, hms, hextra, hget⟩ := Extra.of_write h (by simp)
    (by simp [Shape.portFields, Shape.may]) (Eq.refl p.toJson)
  simp only [List.forall_mem_cons] at hget
  obtain ⟨hname, hport, -⟩ := hget
  rw [hms, ofDocument?, members?_ofMap, Option.bind_eq_bind, Option.bind_some]
  simp only [hextra, optional_of_get? rfl hname fun _ _ => text?_str _,
    orElse_of_get? rfl hport (int32?_int _)]
  rfl

end ContainerPort

namespace VolumeMount

/-- What is carried along is in written form. -/
def Readable (m : VolumeMount) : Prop :=
  Shape.readFields Shape.mountFields m.extra.toList = some m.extra

theorem ofDocument?_toJson {m : VolumeMount} (h : m.Readable) : ofDocument? m.toJson = some m := by
  obtain ⟨ms, hms, hextra, hget⟩ := Extra.of_write h (by simp)
    (by simp [Shape.mountFields, Shape.may]) (Eq.refl m.toJson)
  simp only [List.forall_mem_cons] at hget
  obtain ⟨hname, hpath, -⟩ := hget
  rw [hms, ofDocument?, members?_ofMap, Option.bind_eq_bind, Option.bind_some]
  simp only [hextra, orElse_of_get? rfl hname (text?_str _), orElse_of_get? rfl hpath (text?_str _)]
  rfl

end VolumeMount

namespace Container

/-- What the container, its ports and its mounts carry along is in written form. -/
structure Readable (c : Container) : Prop where
  ports : ∀ ps, c.ports = some ps → ∀ p ∈ ps, p.Readable
  mounts : ∀ ms, c.volumeMounts = some ms → ∀ m ∈ ms, m.Readable
  extra : Shape.readFields Shape.containerFields c.extra.toList = some c.extra

theorem ofDocument?_toJson {c : Container} (h : c.Readable) : ofDocument? c.toJson = some c := by
  have hports : ∀ ps, c.ports = some ps →
      list? ContainerPort.ofDocument? (Json.arr (ps.map (·.toJson))) = some ps :=
    fun ps hps => list?_arr fun p hp => ContainerPort.ofDocument?_toJson (h.ports ps hps p hp)
  have hmounts : ∀ ms, c.volumeMounts = some ms →
      list? VolumeMount.ofDocument? (Json.arr (ms.map (·.toJson))) = some ms :=
    fun ms hms => list?_arr fun m hm => VolumeMount.ofDocument?_toJson (h.mounts ms hms m hm)
  obtain ⟨ms, hms, hextra, hget⟩ := Extra.of_write h.extra (by simp)
    (by simp [Shape.containerFields, Shape.may]) (Eq.refl c.toJson)
  simp only [List.forall_mem_cons] at hget
  obtain ⟨hname, himage, hargs, hports', hresources, hmounts', -⟩ := hget
  rw [hms, ofDocument?, members?_ofMap, Option.bind_eq_bind, Option.bind_some]
  simp only [hextra, orElse_of_get? rfl hname (text?_str _),
    optional_of_get? rfl himage fun _ _ => text?_str _,
    optional_of_get? rfl hargs fun _ _ => list?_arr fun _ _ => text?_str _,
    optional_of_get? rfl hports' hports,
    optional_of_get? rfl hresources fun _ _ => ResourceRequirements.ofDocument?_toJson _,
    optional_of_get? rfl hmounts' hmounts]
  rfl

end Container

theorem ClaimSource.ofDocument?_toJson (s : ClaimSource) : ofDocument? s.toJson = some s := by
  obtain ⟨ms, hms, hget⟩ := Json.of_objectOf (by simp) (Eq.refl s.toJson)
  simp only [List.forall_mem_cons] at hget
  obtain ⟨hname, hreadOnly, -⟩ := hget
  rw [hms, ofDocument?, members?_ofMap, Option.bind_eq_bind, Option.bind_some]
  simp only [orElse_of_get? rfl hname (text?_str _),
    optional_of_get? rfl hreadOnly fun _ _ => flag?_bool _]
  rfl

namespace Volume

/-- What is carried along is in written form. -/
def Readable (v : Volume) : Prop :=
  Shape.readFields Shape.volumeFields v.extra.toList = some v.extra

theorem ofDocument?_toJson {v : Volume} (h : v.Readable) : ofDocument? v.toJson = some v := by
  obtain ⟨ms, hms, hextra, hget⟩ := Extra.of_write h (by simp)
    (by simp [Shape.volumeFields, Shape.may]) (Eq.refl v.toJson)
  simp only [List.forall_mem_cons] at hget
  obtain ⟨hname, hclaim, -⟩ := hget
  rw [hms, ofDocument?, members?_ofMap, Option.bind_eq_bind, Option.bind_some]
  simp only [hextra, orElse_of_get? rfl hname (text?_str _),
    optional_of_get? rfl hclaim fun _ _ => ClaimSource.ofDocument?_toJson _]
  rfl

end Volume

namespace PodSpec

/-- What the parts of the specification carry along is in written form. -/
structure Readable (s : PodSpec) : Prop where
  containers : ∀ c ∈ s.containers, c.Readable
  volumes : ∀ vs, s.volumes = some vs → ∀ v ∈ vs, v.Readable
  affinity : ∀ a, s.affinity = some a → Affinity.ofDocument? a.toJson = some a
  tolerations : ∀ ts, s.tolerations = some ts → ∀ t ∈ ts, Toleration.ofDocument? t.toJson = some t
  extra : Shape.readFields Shape.podSpecFields s.extra.toList = some s.extra

theorem ofDocument?_toJson {s : PodSpec} (h : s.Readable) : ofDocument? s.toJson = some s := by
  have hcontainers : list? Container.ofDocument? (Json.arr (s.containers.map (·.toJson)))
      = some s.containers := list?_arr fun c hc => Container.ofDocument?_toJson (h.containers c hc)
  have hvolumes : ∀ vs, s.volumes = some vs →
      list? Volume.ofDocument? (Json.arr (vs.map (·.toJson))) = some vs :=
    fun vs hvs => list?_arr fun v hv => Volume.ofDocument?_toJson (h.volumes vs hvs v hv)
  have htolerations : ∀ ts, s.tolerations = some ts →
      list? Toleration.ofDocument? (Json.arr (ts.map (·.toJson))) = some ts :=
    fun ts hts => list?_arr (h.tolerations ts hts)
  obtain ⟨ms, hms, hextra, hget⟩ := Extra.of_write h.extra (by simp)
    (by simp [Shape.podSpecFields, Shape.may]) (Eq.refl s.toJson)
  simp only [List.forall_mem_cons] at hget
  obtain ⟨hcontainers', hvolumes', hhostname, hnode, hselector, haffinity, htolerations', -⟩ := hget
  rw [hms, ofDocument?, members?_ofMap, Option.bind_eq_bind, Option.bind_some]
  simp only [hextra, orElse_of_get? rfl hcontainers' hcontainers,
    optional_of_get? rfl hvolumes' hvolumes, optional_of_get? rfl hhostname fun _ _ => text?_str _,
    optional_of_get? rfl hnode fun _ _ => text?_str _,
    optional_of_get? rfl hselector fun _ _ => stringMap?_ofStringMap _,
    optional_of_get? rfl haffinity h.affinity, optional_of_get? rfl htolerations' htolerations]
  rfl

end PodSpec

namespace PodStatus

/-- What is carried along is in written form, and the conditions are readable. -/
structure Readable (s : PodStatus) : Prop where
  extra : Shape.readFields Shape.podStatusFields s.extra.toList = some s.extra
  conditions : ∀ cs, s.conditions = some cs → ∀ c ∈ cs, c.Readable

theorem ofDocument?_toJson {s : PodStatus} (h : s.Readable) : ofDocument? s.toJson = some s.written := by
  obtain ⟨ms, hms, hextra, hget⟩ := Extra.of_write h.extra (by simp)
    (by simp [Shape.podStatusFields, Shape.may]) (Eq.refl s.toJson)
  simp only [List.forall_mem_cons] at hget
  obtain ⟨hphase, hconditions, -⟩ := hget
  rw [hms, ofDocument?, members?_ofMap, Option.bind_eq_bind, Option.bind_some]
  simp only [hextra, optional_of_get? rfl hphase fun _ _ => text?_str _,
    optional_map_of_get? rfl hconditions fun cs hcs => Condition.list?_toJson (h.conditions cs hcs)]
  rfl

end PodStatus

namespace Pod

/-- All parts of the pod are readable. -/
structure Readable (p : Pod) : Prop where
  metadata : p.metadata.Readable
  spec : ∀ s, p.spec = some s → s.Readable
  status : ∀ s, p.status = some s → s.Readable

theorem readsBack {p : Pod} (h : p.Readable) : ReadsBack p := by
  change ofDocument? p.toJson = some p.written
  obtain ⟨ms, hms, hget⟩ := Json.of_objectOf (by simp [objectHead]) (Eq.refl p.toJson)
  simp only [objectHead, List.cons_append, List.nil_append, List.forall_mem_cons] at hget
  obtain ⟨hversion, hkind, hmetadata, hspec, hstatus, -⟩ := hget
  rw [hms, ofDocument?, members?_ofMap, Option.bind_eq_bind, Option.bind_some]
  simp only [checkKind_toList hversion hkind, orElse_of_get? rfl hmetadata h.metadata.reads,
    optional_of_get? rfl hspec fun s hs => PodSpec.ofDocument?_toJson (h.spec s hs),
    optional_map_of_get? rfl hstatus fun s hs => PodStatus.ofDocument?_toJson (h.status s hs)]
  rfl

end Pod

/-! ## Objects that were read -/

section

variable {δ : Type} [Document δ] [TellsNull δ] {d : δ}

theorem Condition.readable_of_ofDocument? {c : Condition} (h : ofDocument? d = some c) : c.Readable := by
  obtain ⟨ms, -, h⟩ := Option.bind_eq_some_iff.1 h
  obtain ⟨type, -, h⟩ := Option.bind_eq_some_iff.1 h
  obtain ⟨status, -, h⟩ := Option.bind_eq_some_iff.1 h
  obtain ⟨transition, htransition, h⟩ := Option.bind_eq_some_iff.1 h
  obtain ⟨extra, hextra, h⟩ := Option.bind_eq_some_iff.1 h
  obtain rfl := Option.some.inj h
  refine ⟨Shape.readFields_written (by decide) hextra, ?_⟩
  rintro t rfl
  obtain ⟨d', -, htime⟩ := of_optional htransition
  exact ObjectMeta.inCalendar_of_time? htime

/-- Optional conditions that were read. -/
theorem Condition.readable_of_optional {ms : Members δ} {conditions : Option (List Condition)}
    (h : optional ms "conditions" (list? Condition.ofDocument?) = some conditions) :
    ∀ cs, conditions = some cs → ∀ c ∈ cs, c.Readable := by
  rintro cs rfl c hc
  obtain ⟨d', -, hlist⟩ := of_optional h
  obtain ⟨d'', hread⟩ := of_list? hlist hc
  exact readable_of_ofDocument? hread

theorem ObjectMeta.readable_of_orElse {ms : Members δ} {m : ObjectMeta}
    (h : orElse ms "metadata" {} ofDocument? = some m) : m.Readable := by
  rcases of_orElse h with rfl | ⟨d', hread⟩
  · exact readable_default
  · exact readable_of_ofDocument? hread

theorem ClaimStatus.readable_of_ofDocument? {s : ClaimStatus} (h : ofDocument? d = some s) :
    s.Readable := by
  obtain ⟨ms, -, h⟩ := Option.bind_eq_some_iff.1 h
  obtain ⟨phase, -, h⟩ := Option.bind_eq_some_iff.1 h
  obtain ⟨conditions, hconditions, h⟩ := Option.bind_eq_some_iff.1 h
  obtain ⟨extra, hextra, h⟩ := Option.bind_eq_some_iff.1 h
  obtain rfl := Option.some.inj h
  exact ⟨Shape.readFields_written (by decide) hextra, Condition.readable_of_optional hconditions⟩

theorem Claim.readable_of_ofDocument? {c : Claim} (h : ofDocument? d = some c) : c.Readable := by
  obtain ⟨ms, -, h⟩ := Option.bind_eq_some_iff.1 h
  obtain ⟨kind, -, h⟩ := Option.bind_eq_some_iff.1 h
  obtain ⟨metadata, hmetadata, h⟩ := Option.bind_eq_some_iff.1 h
  obtain ⟨spec, hspec, h⟩ := Option.bind_eq_some_iff.1 h
  obtain ⟨status, hstatus, h⟩ := Option.bind_eq_some_iff.1 h
  obtain rfl := Option.some.inj h
  refine ⟨ObjectMeta.readable_of_orElse hmetadata, ?_, ?_⟩
  · rintro s rfl
    obtain ⟨d', -, hread⟩ := of_optional hspec
    exact ClaimSpec.readable_of_ofDocument? hread
  · rintro s rfl
    obtain ⟨d', -, hread⟩ := of_optional hstatus
    exact ClaimStatus.readable_of_ofDocument? hread

theorem ConfigMap.readable_of_ofDocument? {c : ConfigMap} (h : ofDocument? d = some c) :
    c.Readable := by
  obtain ⟨ms, -, h⟩ := Option.bind_eq_some_iff.1 h
  obtain ⟨kind, -, h⟩ := Option.bind_eq_some_iff.1 h
  obtain ⟨metadata, hmetadata, h⟩ := Option.bind_eq_some_iff.1 h
  obtain ⟨data, -, h⟩ := Option.bind_eq_some_iff.1 h
  obtain ⟨extra, hextra, h⟩ := Option.bind_eq_some_iff.1 h
  obtain rfl := Option.some.inj h
  exact ⟨ObjectMeta.readable_of_orElse hmetadata, Shape.readFields_written (by decide) hextra⟩

theorem ContainerPort.readable_of_ofDocument? {p : ContainerPort} (h : ofDocument? d = some p) :
    p.Readable := by
  obtain ⟨ms, -, h⟩ := Option.bind_eq_some_iff.1 h
  obtain ⟨name, -, h⟩ := Option.bind_eq_some_iff.1 h
  obtain ⟨port, -, h⟩ := Option.bind_eq_some_iff.1 h
  obtain ⟨extra, hextra, h⟩ := Option.bind_eq_some_iff.1 h
  rw [← Option.some.inj h]
  exact Shape.readFields_written (by decide) hextra

theorem VolumeMount.readable_of_ofDocument? {m : VolumeMount} (h : ofDocument? d = some m) :
    m.Readable := by
  obtain ⟨ms, -, h⟩ := Option.bind_eq_some_iff.1 h
  obtain ⟨name, -, h⟩ := Option.bind_eq_some_iff.1 h
  obtain ⟨path, -, h⟩ := Option.bind_eq_some_iff.1 h
  obtain ⟨extra, hextra, h⟩ := Option.bind_eq_some_iff.1 h
  rw [← Option.some.inj h]
  exact Shape.readFields_written (by decide) hextra

theorem Container.readable_of_ofDocument? {c : Container} (h : ofDocument? d = some c) :
    c.Readable := by
  obtain ⟨ms, -, h⟩ := Option.bind_eq_some_iff.1 h
  obtain ⟨name, -, h⟩ := Option.bind_eq_some_iff.1 h
  obtain ⟨image, -, h⟩ := Option.bind_eq_some_iff.1 h
  obtain ⟨args, -, h⟩ := Option.bind_eq_some_iff.1 h
  obtain ⟨ports, hports, h⟩ := Option.bind_eq_some_iff.1 h
  obtain ⟨resources, -, h⟩ := Option.bind_eq_some_iff.1 h
  obtain ⟨mounts, hmounts, h⟩ := Option.bind_eq_some_iff.1 h
  obtain ⟨extra, hextra, h⟩ := Option.bind_eq_some_iff.1 h
  obtain rfl := Option.some.inj h
  refine ⟨?_, ?_, Shape.readFields_written (by decide +kernel) hextra⟩
  · rintro ps rfl p hp
    obtain ⟨d', -, hlist⟩ := of_optional hports
    obtain ⟨d'', hread⟩ := of_list? hlist hp
    exact ContainerPort.readable_of_ofDocument? hread
  · rintro ms rfl m hm
    obtain ⟨d', -, hlist⟩ := of_optional hmounts
    obtain ⟨d'', hread⟩ := of_list? hlist hm
    exact VolumeMount.readable_of_ofDocument? hread

theorem Volume.readable_of_ofDocument? {v : Volume} (h : ofDocument? d = some v) : v.Readable := by
  obtain ⟨ms, -, h⟩ := Option.bind_eq_some_iff.1 h
  obtain ⟨name, -, h⟩ := Option.bind_eq_some_iff.1 h
  obtain ⟨claim, -, h⟩ := Option.bind_eq_some_iff.1 h
  obtain ⟨extra, hextra, h⟩ := Option.bind_eq_some_iff.1 h
  rw [← Option.some.inj h]
  exact Shape.readFields_written (by decide +kernel) hextra

theorem PodSpec.readable_of_ofDocument? {s : PodSpec} (h : ofDocument? d = some s) : s.Readable := by
  obtain ⟨ms, -, h⟩ := Option.bind_eq_some_iff.1 h
  obtain ⟨containers, hcontainers, h⟩ := Option.bind_eq_some_iff.1 h
  obtain ⟨volumes, hvolumes, h⟩ := Option.bind_eq_some_iff.1 h
  obtain ⟨hostname, -, h⟩ := Option.bind_eq_some_iff.1 h
  obtain ⟨nodeName, -, h⟩ := Option.bind_eq_some_iff.1 h
  obtain ⟨nodeSelector, -, h⟩ := Option.bind_eq_some_iff.1 h
  obtain ⟨affinity, haffinity, h⟩ := Option.bind_eq_some_iff.1 h
  obtain ⟨tolerations, htolerations, h⟩ := Option.bind_eq_some_iff.1 h
  obtain ⟨extra, hextra, h⟩ := Option.bind_eq_some_iff.1 h
  obtain rfl := Option.some.inj h
  refine ⟨?_, ?_, ?_, ?_, Shape.readFields_written (by decide +kernel) hextra⟩
  · intro c hc
    rcases of_orElse hcontainers with rfl | ⟨d', hlist⟩
    · cases hc
    · obtain ⟨d'', hread⟩ := of_list? hlist hc
      exact Container.readable_of_ofDocument? hread
  · rintro vs rfl v hv
    obtain ⟨d', -, hlist⟩ := of_optional hvolumes
    obtain ⟨d'', hread⟩ := of_list? hlist hv
    exact Volume.readable_of_ofDocument? hread
  · rintro a rfl
    obtain ⟨d', -, hread⟩ := of_optional haffinity
    exact Affinity.ofDocument?_toJson_of_read hread
  · rintro ts rfl t ht
    obtain ⟨d', -, hlist⟩ := of_optional htolerations
    obtain ⟨d'', hread⟩ := of_list? hlist ht
    exact Toleration.ofDocument?_toJson_of_read hread

theorem PodStatus.readable_of_ofDocument? {s : PodStatus} (h : ofDocument? d = some s) :
    s.Readable := by
  obtain ⟨ms, -, h⟩ := Option.bind_eq_some_iff.1 h
  obtain ⟨phase, -, h⟩ := Option.bind_eq_some_iff.1 h
  obtain ⟨conditions, hconditions, h⟩ := Option.bind_eq_some_iff.1 h
  obtain ⟨extra, hextra, h⟩ := Option.bind_eq_some_iff.1 h
  obtain rfl := Option.some.inj h
  exact ⟨Shape.readFields_written (by decide +kernel) hextra, Condition.readable_of_optional hconditions⟩

theorem Pod.readable_of_ofDocument? {p : Pod} (h : ofDocument? d = some p) : p.Readable := by
  obtain ⟨ms, -, h⟩ := Option.bind_eq_some_iff.1 h
  obtain ⟨kind, -, h⟩ := Option.bind_eq_some_iff.1 h
  obtain ⟨metadata, hmetadata, h⟩ := Option.bind_eq_some_iff.1 h
  obtain ⟨spec, hspec, h⟩ := Option.bind_eq_some_iff.1 h
  obtain ⟨status, hstatus, h⟩ := Option.bind_eq_some_iff.1 h
  obtain rfl := Option.some.inj h
  refine ⟨ObjectMeta.readable_of_orElse hmetadata, ?_, ?_⟩
  · rintro s rfl
    obtain ⟨d', -, hread⟩ := of_optional hspec
    exact PodSpec.readable_of_ofDocument? hread
  · rintro s rfl
    obtain ⟨d', -, hread⟩ := of_optional hstatus
    exact PodStatus.readable_of_ofDocument? hread

end

end TabletFleet
