import TabletFleet.Pass.Turndown
import TabletFleet.Proofs.OrdMap
import TabletFleet.Proofs.Tablet.Alias
import TabletFleet.Topology

set_option autoImplicit false

/-! # Primaries told by a snapshot

A snapshot names primaries in text. It gives a topology just when every text in it names an alias, also
where a later entry replaces the one with the text (`ofEntries_eq_ok_iff`); and then the last entry for a
shard decides which tablet is its primary, by the alias that its text names, not by how it names it. -/

namespace TabletFleet

/-! ## Entries -/

namespace SnapshotEntry

/-- The shard that the entry is for. -/
def id (e : SnapshotEntry) : ShardId := ⟨e.keyspace, e.shard⟩

/-- The entry names no primary, or names it by an alias. -/
def IsValid (e : SnapshotEntry) : Prop :=
  ∀ text, e.primary = some text → ∃ a : TabletAlias, a.SpelledBy text

/-- What the entry records. -/
def record (e : SnapshotEntry) : ShardRecord := { primary := e.primary.bind TabletAlias.parse? }

/-- It is the last entry of the list for its shard. -/
def IsLastFor (e : SnapshotEntry) (entries : List SnapshotEntry) (id : ShardId) : Prop :=
  ∃ earlier later, entries = earlier ++ e :: later ∧ e.id = id ∧ ∀ e' ∈ later, e'.id ≠ id

theorem record_primary_eq_some_iff {e : SnapshotEntry} {a : TabletAlias} :
    e.record.primary = some a ↔ ∃ text, e.primary = some text ∧ a.SpelledBy text := by
  simp only [record, Option.bind_eq_some_iff, TabletAlias.parse?_eq_some_iff]

/-- An entry is read as its record, or refused if it is not valid. -/
theorem mapM_parse_eq_ok_iff {e : SnapshotEntry} {primary : Option TabletAlias} :
    e.primary.mapM TabletAlias.parse = .ok primary ↔ e.IsValid ∧ primary = e.record.primary := by
  unfold IsValid record
  cases e.primary with
  | none => simp [pure, Except.pure, eq_comm]
  | some text =>
      cases hread : TabletAlias.parse? text with
      | none =>
          have hnone : ¬∃ a : TabletAlias, a.SpelledBy text := by
            rintro ⟨a, ha⟩
            rw [← TabletAlias.parse?_eq_some_iff, hread] at ha
            cases ha
          simp [TabletAlias.parse, hread, hnone]
      | some a =>
          have hspelled : ∃ a : TabletAlias, a.SpelledBy text :=
            ⟨a, TabletAlias.parse?_eq_some_iff.1 hread⟩
          simp [TabletAlias.parse, hread, hspelled, eq_comm]

end SnapshotEntry

/-! ## The topology of a snapshot -/

theorem bind_eq_ok_iff {ε α β : Type} {x : Except ε α} {f : α → Except ε β} {b : β} :
    (x >>= f) = .ok b ↔ ∃ a, x = .ok a ∧ f a = .ok b := by
  cases x <;> simp [bind, Except.bind]

namespace Topology

theorem addEntry_eq_ok_iff {t t' : Topology} {e : SnapshotEntry} :
    t.addEntry e = .ok t' ↔
      e.IsValid ∧ { t with records := t.records.insert e.id e.record } = t' := by
  simp only [addEntry, bind_eq_ok_iff, SnapshotEntry.mapM_parse_eq_ok_iff]
  constructor
  · rintro ⟨primary, ⟨hvalid, rfl⟩, hrest⟩
    exact ⟨hvalid, Except.ok.inj hrest⟩
  · rintro ⟨hvalid, rfl⟩
    exact ⟨e.record.primary, ⟨hvalid, rfl⟩, rfl⟩

theorem foldlM_addEntry_eq_ok_iff {t t' : Topology} {entries : List SnapshotEntry} :
    entries.foldlM addEntry t = .ok t' ↔ (∀ e ∈ entries, e.IsValid) ∧
      { t with records := t.records.insertMany (entries.map fun e => (e.id, e.record)) } = t' := by
  induction entries generalizing t with
  | nil => simp [pure, Except.pure, OrdMap.insertMany]
  | cons e entries ih =>
      rw [List.foldlM_cons, bind_eq_ok_iff, List.forall_mem_cons, and_assoc]
      constructor
      · rintro ⟨t₁, hadd, hrest⟩
        obtain ⟨hvalid, rfl⟩ := addEntry_eq_ok_iff.1 hadd
        exact ⟨hvalid, ih.1 hrest⟩
      · rintro ⟨hvalid, hrest⟩
        exact ⟨_, addEntry_eq_ok_iff.2 ⟨hvalid, rfl⟩, ih.2 hrest⟩

/-- A snapshot gives a topology just when all its entries are valid. -/
theorem ofEntries_eq_ok_iff {entries : List SnapshotEntry} {t : Topology} :
    ofEntries entries = .ok t ↔ (∀ e ∈ entries, e.IsValid) ∧
      { records := .ofList (entries.map fun e => (e.id, e.record)) } = t :=
  foldlM_addEntry_eq_ok_iff

theorem ofEntries_fails_iff {entries : List SnapshotEntry} :
    (∃ e, ofEntries entries = .error e) ↔ ¬∀ e ∈ entries, e.IsValid := by
  constructor
  · rintro ⟨error, herror⟩ hvalid
    rw [ofEntries_eq_ok_iff.2 ⟨hvalid, rfl⟩] at herror
    cases herror
  · intro hinvalid
    cases hread : ofEntries entries with
    | error e => exact ⟨e, rfl⟩
    | ok t => exact absurd (ofEntries_eq_ok_iff.1 hread).1 hinvalid

/-- What is recorded of a shard is what its last entry records. -/
theorem get?_records_ofEntries {entries : List SnapshotEntry} {t : Topology}
    (h : ofEntries entries = .ok t) {id : ShardId} {r : ShardRecord} :
    t.records.get? id = some r ↔ ∃ e : SnapshotEntry, e.IsLastFor entries id ∧ e.record = r := by
  obtain ⟨-, rfl⟩ := ofEntries_eq_ok_iff.1 h
  rw [OrdMap.get?_ofList_map_eq_some]
  constructor
  · rintro ⟨earlier, e, later, hentries, hid, hrecord, hlast⟩
    exact ⟨e, ⟨earlier, later, hentries, hid, hlast⟩, hrecord⟩
  · rintro ⟨e, ⟨earlier, later, hentries, hid, hlast⟩, hrecord⟩
    exact ⟨earlier, e, later, hentries, hid, hrecord, hlast⟩

theorem exists_record_iff {entries : List SnapshotEntry} {t : Topology}
    (h : ofEntries entries = .ok t) {id : ShardId} {P : ShardRecord → Prop} :
    (∃ r, t.records.get? id = some r ∧ P r) ↔
      ∃ e : SnapshotEntry, e.IsLastFor entries id ∧ P e.record := by
  constructor
  · rintro ⟨r, hr, hP⟩
    obtain ⟨e, he, rfl⟩ := (get?_records_ofEntries h).1 hr
    exact ⟨e, he, hP⟩
  · rintro ⟨e, he, hP⟩
    exact ⟨e.record, (get?_records_ofEntries h).2 ⟨e, he, rfl⟩, hP⟩

theorem get?_records_eq_none_iff {entries : List SnapshotEntry} {t : Topology}
    (h : ofEntries entries = .ok t) {id : ShardId} :
    t.records.get? id = none ↔ ∀ e ∈ entries, e.id ≠ id := by
  obtain ⟨-, rfl⟩ := ofEntries_eq_ok_iff.1 h
  rw [← Option.not_isSome_iff_eq_none, OrdMap.isSome_get?_ofList]
  simp

/-! ## Answers -/

/-- Switch the service off or on. -/
def setUnavailable (t : Topology) (off : Bool) : Topology := { t with isUnavailable := off }

/-- Whether a tablet is the primary of a shard, looked up in a world of any kind. -/
def primaryCheck {σ : Type} (t : Topology) (id : ShardId) (timeout : Duration) (tablet : TabletAlias)
    (w : σ) : PrimaryCheck :=
  ((⟨t.service, id, timeout⟩ : PrimaryLookup σ).check tablet w).1

section Answers

variable {σ : Type} {t : Topology} {id : ShardId} {timeout : Duration} {tablet : TabletAlias} {w : σ}

theorem primaryCheck_eq (h : t.answersWithin timeout = true) :
    t.primaryCheck id timeout tablet w = .ofRecord tablet (t.record id) := by
  show PrimaryCheck.ofRecord tablet (t.lookup id timeout) = _
  rw [lookup, if_pos h]

theorem primaryCheck_eq_primary_iff (h : t.answersWithin timeout = true) :
    t.primaryCheck id timeout tablet w = .primary ↔
      t.isUnavailable = false ∧ ∃ r, t.records.get? id = some r ∧ r.primary = some tablet := by
  rw [primaryCheck_eq h, record]
  cases t.isUnavailable with
  | true => simp [PrimaryCheck.ofRecord]
  | false => cases t.records.get? id <;> simp [PrimaryCheck.ofRecord]

theorem primaryCheck_eq_unknown_iff (h : t.answersWithin timeout = true) :
    t.primaryCheck id timeout tablet w = .unknown ↔
      t.isUnavailable = true ∨ t.records.get? id = none := by
  rw [primaryCheck_eq h, record]
  cases t.isUnavailable with
  | true => simp [PrimaryCheck.ofRecord]
  | false =>
      cases t.records.get? id with
      | none => simp [PrimaryCheck.ofRecord]
      | some r => by_cases hprimary : r.primary = some tablet <;> simp [PrimaryCheck.ofRecord, hprimary]

theorem primaryCheck_eq_notPrimary_iff (h : t.answersWithin timeout = true) :
    t.primaryCheck id timeout tablet w = .notPrimary ↔
      t.isUnavailable = false ∧ ∃ r, t.records.get? id = some r ∧ r.primary ≠ some tablet := by
  rw [primaryCheck_eq h, record]
  cases t.isUnavailable with
  | true => simp [PrimaryCheck.ofRecord]
  | false => cases t.records.get? id <;> simp [PrimaryCheck.ofRecord]

end Answers

/-- *Primaries told by a snapshot.* A snapshot fails just when one of its entries names the primary by a text
that names no alias. Otherwise, with any delay of the lookups that the caller waits for, a tablet is the
primary of a shard just when the service is in reach and the last entry for the shard names the tablet,
however its number is spelled; nothing is known when the service is out of reach or there is no entry for the
shard; and else the tablet is not the primary. Out of reach and back again, the service answers all lookups
as before. -/
theorem snapshot_decides_primary {σ : Type} (entries : List SnapshotEntry) (w : σ) :
    ((∃ error, ofEntries entries = .error error) ↔
      ∃ e ∈ entries, ∃ text, e.primary = some text ∧ ∀ a : TabletAlias, ¬a.SpelledBy text) ∧
    ∀ t, ofEntries entries = .ok t → ∀ delay : Duration,
      let slow : Topology := { t with delay }
      (∀ off id timeout tablet, slow.answersWithin timeout = true →
        ((slow.setUnavailable off).primaryCheck id timeout tablet w = .primary ↔ off = false ∧
          ∃ e : SnapshotEntry, e.IsLastFor entries id ∧
            ∃ text, e.primary = some text ∧ tablet.SpelledBy text) ∧
        ((slow.setUnavailable off).primaryCheck id timeout tablet w = .unknown ↔ off = true ∨
          ∀ e ∈ entries, e.id ≠ id) ∧
        ((slow.setUnavailable off).primaryCheck id timeout tablet w = .notPrimary ↔ off = false ∧
          ∃ e : SnapshotEntry, e.IsLastFor entries id ∧
            ∀ text, e.primary = some text → ¬tablet.SpelledBy text)) ∧
      ((slow.setUnavailable true).setUnavailable false).lookup = slow.lookup := by
  refine ⟨?_, fun t ht delay => ⟨fun off id timeout tablet htime => ?_, ?_⟩⟩
  · rw [ofEntries_fails_iff]
    simp only [SnapshotEntry.IsValid, not_forall, not_exists, exists_prop]
  · have htime' : (Topology.setUnavailable { t with delay } off).answersWithin timeout = true := htime
    refine ⟨?_, ?_, ?_⟩
    · rw [primaryCheck_eq_primary_iff htime']
      refine and_congr_right fun _ => (exists_record_iff ht).trans ?_
      simp only [SnapshotEntry.record_primary_eq_some_iff]
    · rw [primaryCheck_eq_unknown_iff htime']
      exact or_congr_right (get?_records_eq_none_iff ht)
    · rw [primaryCheck_eq_notPrimary_iff htime']
      refine and_congr_right fun _ => (exists_record_iff ht).trans ?_
      simp only [ne_eq, SnapshotEntry.record_primary_eq_some_iff, not_exists, not_and]
  · -- the topology of a snapshot is in reach
    obtain ⟨-, rfl⟩ := ofEntries_eq_ok_iff.1 ht
    rfl

/-- A snapshot in which the second entry for a shard replaces the first. -/
def sampleEntries : List SnapshotEntry := [
  { keyspace := "ks", shard := "-", primary := some "zone1-0000000007" },
  { keyspace := "ks", shard := "-", primary := some "us-east-1-+8" }]

def sampleSnapshot : Topology := (ofEntries sampleEntries).toOption.getD {}

/-- The second entry decides, and names its tablet by another text than that of the tablet's alias. -/
theorem sample_second_entry_decides :
    ofEntries sampleEntries = .ok sampleSnapshot ∧
      sampleSnapshot.primaryCheck ⟨"ks", "-"⟩ .zero ⟨"us-east-1", 8⟩ () = .primary ∧
      (TabletAlias.mk "us-east-1" 8).text ≠ "us-east-1-+8" := by
  have hread : ofEntries sampleEntries = .ok sampleSnapshot := by rfl
  have hspelled : (TabletAlias.mk "us-east-1" 8).SpelledBy "us-east-1-+8" :=
    ⟨by decide, "+8", by decide, ['8'], .inr (by decide), by decide,
      List.forall_mem_singleton.2 (by decide), by decide⟩
  obtain ⟨hprimary, -⟩ := ((snapshot_decides_primary sampleEntries ()).2 sampleSnapshot hread .zero).1
    false ⟨"ks", "-"⟩ .zero ⟨"us-east-1", 8⟩ (by decide)
  refine ⟨hread, hprimary.2 ⟨rfl, _, ⟨[_], [], rfl, rfl, by simp⟩, _, rfl, hspelled⟩, by decide⟩

end Topology

end TabletFleet
