import TabletFleet.Proofs.Cluster.ObjectsReadBack
import TabletFleet.Proofs.Store.History
import TabletFleet.Proofs.Store.Stamps
import TabletFleet.Proofs.Text.Numeral

set_option autoImplicit false

/-! # The store of slots keeps objects by key

Whatever was called before, the store answers from the history of calls: what it finds at a key is what was
last written to its slot, its lists are the objects in the slots of a namespace that are selected, and its
operations fail just where they have to. A call that fails might as well not have been made.

Objects go into the slots as JSON and come out as whatever kind is asked for. So what is found is told
first for what lies in the slots, decoding and all, of types that may share the names of their kinds. Where
only objects of one kind are written under its name, and they can be read back (`StoreCall.Legible`), nothing
fails to decode, and the objects themselves are found. -/

namespace TabletFleet

open ManagedObject (metadata key? written)

/-! ## Objects -/

section Objects

variable {K : Type} [ManagedObject K]

/-- The object without its uid. -/
def withoutUid (object : K) : K := ManagedObject.mapMetadata (fun m => { m with uid := none }) object

/-- What is stored depends on the source of uids in its uid alone. -/
theorem withoutUid_stampedAs {stamp stamp' : Stamp} (h : stamp.version = stamp'.version) (isNew : Bool)
    (object : K) :
    withoutUid (stampedAs stamp isNew object) = withoutUid (stampedAs stamp' isNew object) := by
  simp only [withoutUid, stampedAs, ManagedObject.mapMetadata, ManagedObject.metadata_setMetadata,
    ManagedObject.setMetadata_setMetadata, h]

theorem withoutUid_written (object : K) : withoutUid (written object) = written (withoutUid object) := by
  simp only [withoutUid, ManagedObject.mapMetadata, ManagedObject.written_setMetadata,
    ManagedObject.metadata_written, ObjectMeta.wholeSeconds]

theorem withoutUid_storedAs {stamp stamp' : Stamp} (h : stamp.version = stamp'.version) (isNew : Bool)
    (object : K) : withoutUid (storedAs stamp isNew object) = withoutUid (storedAs stamp' isNew object) := by
  rw [storedAs, storedAs, withoutUid_written, withoutUid_written, withoutUid_stampedAs h]

end Objects

namespace StoreCall

variable {ι : Type} {Object : ι → Type} [∀ kind, ManagedObject (Object kind)]

/-! ## What is held -/

section Held

variable (newUid : Nat → String) (calls : List (StoreCall Object))

/-- Something was written to the slot and has not been deleted since. -/
def Occupied (slot : Slot) : Prop := ∃ d n, LastWrite newUid calls slot d n

/-- The object is what the last write to the slot of the key has left there, an object of this kind. -/
def Holds (kind : ι) (key : ObjectKey) (object : Object kind) : Prop :=
  ∃ isNew draft n, LastWrite newUid calls (.of (Object kind) key) ⟨kind, isNew, draft⟩ n ∧
    object = storedAs (stampAfter newUid n) isNew draft

omit newUid in
/-- All that the calls store under the name of the kind is of this kind, and is read back whatever its
stamp. -/
def Legible (kind : ι) : Prop :=
  ∀ c ∈ calls, ∀ d, c.draft? = some d →
    ManagedObject.kind (Object d.kind) = ManagedObject.kind (Object kind) →
      d.kind = kind ∧ ∀ stamp, ReadsBack (d.stamped stamp)

end Held

/-- Kinds that do not share their names are legible where what is stored is read back. -/
theorem legible_of_distinct {calls : List (StoreCall Object)}
    (hkinds : ∀ kind kind',
      ManagedObject.kind (Object kind) = ManagedObject.kind (Object kind') → kind = kind')
    (hreads : ∀ c ∈ calls, ∀ d, c.draft? = some d → ∀ stamp, ReadsBack (d.stamped stamp)) (kind : ι) :
    Legible calls kind :=
  fun c hc d hdraft hname => ⟨hkinds _ _ hname, hreads c hc d hdraft⟩

variable {newUid newUid' : Nat → String} {calls : List (StoreCall Object)}

theorem isSome_get?_after {slot : Slot} :
    ((after newUid calls).objects.get? slot).isSome = true ↔ Occupied newUid calls slot := by
  rw [Option.isSome_iff_exists]
  constructor
  · rintro ⟨json, hjson⟩
    obtain ⟨d, n, hlast, -⟩ := (get?_after newUid calls slot json).1 hjson
    exact ⟨d, n, hlast⟩
  · rintro ⟨d, n, hlast⟩
    exact ⟨_, (get?_after newUid calls slot _).2 ⟨d, n, hlast, rfl⟩⟩

/-- What lies in the slots of a legible kind is of this kind, names its key and is read back. -/
theorem LastWrite.of_legible {kind : ι} {key : ObjectKey} {d : Draft Object} {n : Nat}
    (hlast : LastWrite newUid calls (.of (Object kind) key) d n) (h : Legible calls kind) :
    ∃ isNew draft, d = ⟨kind, isNew, draft⟩ ∧ key? draft = some key ∧
      ∀ stamp, ManagedObject.ofDocument? (d.json stamp) = some (storedAs stamp isNew draft) := by
  obtain ⟨before, c, later, rfl, -, ⟨hdraft, hslot⟩, -⟩ := hlast
  obtain ⟨kind', isNew, draft⟩ := d
  obtain ⟨key', hkey, hof⟩ := Draft.slot?_eq_some_iff.1 hslot
  obtain ⟨hname, rfl⟩ := Slot.mk.inj hof
  obtain ⟨rfl, hreads⟩ := h c (List.mem_append_right _ List.mem_cons_self) _ hdraft hname.symm
  exact ⟨isNew, draft, rfl, hkey, hreads⟩

/-! ## Writes -/

theorem succeeds_insert_iff (kind : ι) (object : Object kind) :
    Succeeds newUid calls (.insert kind object) ↔ ∃ key, key? object = some key := by
  rw [Succeeds, answer]
  cases hkey : key? object with
  | none =>
      rw [run_keyless (d := ⟨kind, true, object⟩) _ rfl hkey]
      simp
  | some key =>
      rw [run_insert _ hkey]
      simp

theorem succeeds_create_iff (kind : ι) (object : Object kind) :
    Succeeds newUid calls (.create kind object) ↔
      ∃ key, key? object = some key ∧ ¬Rejected calls .create key.name ∧
        ¬Occupied newUid calls (.of (Object kind) key) := by
  rw [Succeeds, answer]
  cases hkey : key? object with
  | none =>
      rw [run_keyless (d := ⟨kind, true, object⟩) _ rfl hkey]
      simp
  | some key =>
      rw [run_create _ hkey]
      simp only [Option.some.injEq, exists_eq_left', ← isSome_get?_after,
        ← mem_rejections_after newUid calls]
      split
      · next hr => simp [hr]
      · next hr =>
          split
          · next ho => simp [ho]
          · next ho => simp [hr, ho]

theorem succeeds_update_iff (kind : ι) (object : Object kind) :
    Succeeds newUid calls (.update kind object) ↔
      ∃ key, key? object = some key ∧ ¬Rejected calls .update key.name ∧
        Occupied newUid calls (.of (Object kind) key) := by
  rw [Succeeds, answer]
  cases hkey : key? object with
  | none =>
      rw [run_keyless (d := ⟨kind, false, object⟩) _ rfl hkey]
      simp
  | some key =>
      rw [run_update _ hkey]
      simp only [Option.some.injEq, exists_eq_left', ← isSome_get?_after,
        ← mem_rejections_after newUid calls]
      split
      · next hr => simp [hr]
      · next hr =>
          split
          · next ho => simp [hr, ho]
          · next ho => simp [ho]

theorem succeeds_delete_iff (kind : ι) (key : ObjectKey) :
    Succeeds newUid calls (.delete kind key) ↔ ¬Rejected calls .delete key.name := by
  rw [← mem_rejections_after newUid calls, Succeeds, answer, run_delete]
  split
  · next hr => simp [hr]
  · next hr => simp [hr]

theorem answer_get (kind : ι) (key : ObjectKey) :
    answer newUid calls (.get kind key) =
      if (.get, key.name) ∈ (after newUid calls).rejections then
        .error (.rejected .get (ManagedObject.kind (Object kind)) key)
      else ((after newUid calls).objects.get? (.of (Object kind) key)).elim (.ok (.found kind none))
        fun json => (SlotStore.decode (Object kind) json).map fun object => .found kind (some object) := by
  change ((after newUid calls).get (Object kind) key).map (Reply.found kind) = _
  rw [SlotStore.get_eq]
  split
  · rfl
  · cases (after newUid calls).objects.get? (.of (Object kind) key) with
    | none => rfl
    | some json =>
        rw [Option.elim_some, Option.elim_some]
        cases SlotStore.decode (Object kind) json <;> rfl

/-- Of a legible kind, what is read at a key is what is held there. -/
theorem fetch?_after_legible {kind : ι} (h : Legible calls kind) {key : ObjectKey} {object : Object kind} :
    (after newUid calls).fetch? (Object kind) key = some object ↔ Holds newUid calls kind key object := by
  rw [SlotStore.fetch?, Option.bind_eq_some_iff]
  constructor
  · rintro ⟨json, hget, hread⟩
    obtain ⟨d, n, hlast, rfl⟩ := (get?_after newUid calls _ json).1 hget
    obtain ⟨isNew, draft, rfl, -, hreads⟩ := hlast.of_legible h
    rw [hreads] at hread
    exact ⟨isNew, draft, n, hlast, (Option.some.inj hread).symm⟩
  · rintro ⟨isNew, draft, n, hlast, rfl⟩
    obtain ⟨_, _, hsame, -, hreads⟩ := hlast.of_legible h
    cases hsame
    exact ⟨_, (get?_after newUid calls _ _).2 ⟨_, n, hlast, rfl⟩, hreads _⟩

theorem reads_after_legible (newUid : Nat → String) {kind : ι} (h : Legible calls kind) :
    (after newUid calls).Reads (Object kind) := by
  intro key json hget
  obtain ⟨d, n, hlast, rfl⟩ := (get?_after newUid calls _ json).1 hget
  obtain ⟨isNew, draft, rfl, hkey, hreads⟩ := hlast.of_legible h
  exact ⟨_, hreads _, (key?_storedAs ..).trans hkey⟩

/-- Of a legible kind, what is held at a key is found there. -/
theorem answer_get_legible (newUid : Nat → String) {kind : ι} (h : Legible calls kind) (key : ObjectKey)
    (hr : ¬Rejected calls .get key.name) :
    ∃ found, answer newUid calls (.get kind key) = .ok (.found kind found) ∧
      ∀ object, found = some object ↔ Holds newUid calls kind key object := by
  rw [← mem_rejections_after newUid calls] at hr
  refine ⟨(after newUid calls).fetch? (Object kind) key, ?_, fun object => fetch?_after_legible h⟩
  rw [answer_get, if_neg hr, SlotStore.fetch?]
  cases hslot : (after newUid calls).objects.get? (.of (Object kind) key) with
  | none => rfl
  | some json =>
      obtain ⟨object, hread, -⟩ := reads_after_legible newUid h key json hslot
      rw [Option.elim_some, Option.bind_some, SlotStore.decode, hread]
      rfl

theorem succeeds_congr
    (h : ∀ slot, Occupied newUid calls slot ↔ Occupied newUid' calls slot) {c : StoreCall Object}
    (hread : c.isRead = false) : Succeeds newUid calls c ↔ Succeeds newUid' calls c := by
  cases c with
  | insert kind object => rw [succeeds_insert_iff, succeeds_insert_iff]
  | create kind object => simp only [succeeds_create_iff, h]
  | update kind object => simp only [succeeds_update_iff, h]
  | delete kind key => rw [succeeds_delete_iff, succeeds_delete_iff]
  | reject verb name => exact ⟨fun _ => rfl, fun _ => rfl⟩
  | allow verb name => exact ⟨fun _ => rfl, fun _ => rfl⟩
  | get | list | names => cases hread

theorem history_congr (newUid newUid' : Nat → String) (calls : List (StoreCall Object)) :
    writeCount newUid calls = writeCount newUid' calls ∧
      ∀ slot d n, LastWrite newUid calls slot d n ↔ LastWrite newUid' calls slot d n := by
  induction calls using List.reverseRecOn with
  | nil =>
      refine ⟨rfl, fun slot d n => iff_of_false ?_ ?_⟩
      · rintro ⟨before, c, later, hcalls, -⟩
        simp at hcalls
      · rintro ⟨before, c, later, hcalls, -⟩
        simp at hcalls
  | append_singleton calls c ih =>
      obtain ⟨hcount, hlast⟩ := ih
      have hoccupied : ∀ slot, Occupied newUid calls slot ↔ Occupied newUid' calls slot :=
        fun slot => exists_congr fun d => exists_congr fun n => hlast slot d n
      cases hread : c.isRead with
      | true =>
          have hdraft := draft?_of_isRead hread
          have hdelete := ne_delete_of_isRead hread
          refine ⟨?_, fun slot d n => ?_⟩
          · rw [writeCount_append, writeCount_append, hdraft, hcount]
            rfl
          · rw [lastWrite_append, lastWrite_append, hlast]
            simp only [not_writes hdraft, not_touches hdraft hdelete, false_and]
      | false =>
          have hok := succeeds_congr hoccupied hread
          refine ⟨?_, fun slot d n => ?_⟩
          · have hisOk := Bool.eq_iff_iff.2 hok
            rw [writeCount_append, writeCount_append, hisOk, hcount]
          · rw [lastWrite_append, lastWrite_append, hlast, hok, hcount]

/-- What is held is the same whatever the source of uids, but for the uids. -/
theorem holds_congr (newUid newUid' : Nat → String) {kind : ι} {key : ObjectKey} {object : Object kind}
    (h : Holds newUid calls kind key object) :
    ∃ object', Holds newUid' calls kind key object' ∧ withoutUid object' = withoutUid object := by
  obtain ⟨isNew, draft, n, hlast, rfl⟩ := h
  have hversion : (stampAfter newUid' n).version = (stampAfter newUid n).version := rfl
  exact ⟨_, ⟨isNew, draft, n, ((history_congr newUid newUid' calls).2 ..).1 hlast, rfl⟩,
    withoutUid_storedAs hversion isNew draft⟩

end StoreCall

/-- An answer without the uids of the objects in it. -/
def Reply.withoutUids {ι : Type} {Object : ι → Type} [∀ kind, ManagedObject (Object kind)] :
    Reply Object → Reply Object
  | .done => .done
  | .stored kind object => .stored kind (withoutUid object)
  | .found kind object => .found kind (object.map withoutUid)
  | .listed kind objects => .listed kind (objects.map withoutUid)
  | .named names => .named names

namespace StoreCall

variable {ι : Type} {Object : ι → Type} [∀ kind, ManagedObject (Object kind)]
variable {newUid newUid' : Nat → String} {calls : List (StoreCall Object)}

theorem found_congr {kind : ι} (h : Legible calls kind) (key : ObjectKey) :
    (answer newUid calls (.get kind key)).map Reply.withoutUids
      = (answer newUid' calls (.get kind key)).map Reply.withoutUids := by
  by_cases hr : Rejected calls .get key.name
  · rw [answer_get, answer_get, if_pos ((mem_rejections_after newUid calls _ _).2 hr),
      if_pos ((mem_rejections_after newUid' calls _ _).2 hr)]
  · obtain ⟨found, hanswer, hmem⟩ := answer_get_legible newUid h key hr
    obtain ⟨found', hanswer', hmem'⟩ := answer_get_legible newUid' h key hr
    have hsame : found.map withoutUid = found'.map withoutUid := by
      cases found with
      | none =>
          cases found' with
          | none => rfl
          | some object' =>
              obtain ⟨object, hheld, -⟩ := holds_congr newUid' newUid ((hmem' object').1 rfl)
              cases (hmem object).2 hheld
      | some object =>
          obtain ⟨object', hheld', hsame⟩ := holds_congr newUid newUid' ((hmem object).1 rfl)
          rw [(hmem' object').2 hheld', Option.map_some, Option.map_some, hsame]
    rw [hanswer, hanswer']
    simp only [Except.map, Reply.withoutUids, hsame]

end StoreCall

end TabletFleet
