import Mathlib.Data.List.Induction
import TabletFleet.Proofs.Store.Slots

set_option autoImplicit false

/-! # Histories of calls

A store of slots is used by calls that are made one after another, on objects of the types `Object kind`.
The types are any whatsoever; several of them may share the name of their kind, and with it the slots.

What was called before decides all that the store answers: which object was last written to a slot
(`StoreCall.LastWrite`), which operations fail (`StoreCall.Rejected`) and how many writes were made
(`StoreCall.writeCount`). These are told by the calls and their success alone, and the store is shown to have
just that in its slots, its rejections and its revision. -/

namespace TabletFleet

open ManagedObject (key? metadata)

/-! ## Calls -/

section Calls

variable {ι : Type}

/-- What a store can be asked. -/
inductive StoreCall (Object : ι → Type) where
  | insert (kind : ι) (object : Object kind)
  | create (kind : ι) (object : Object kind)
  | update (kind : ι) (object : Object kind)
  | delete (kind : ι) (key : ObjectKey)
  | get (kind : ι) (key : ObjectKey)
  | list (kind : ι) (ns : String) (selector : StringMap)
  | names (kind : ι)
  | reject (verb : Verb) (name : String)
  | allow (verb : Verb) (name : String)

/-- What a store answers. -/
inductive Reply (Object : ι → Type) where
  | done
  | stored (kind : ι) (object : Object kind)
  | found (kind : ι) (object : Option (Object kind))
  | listed (kind : ι) (objects : List (Object kind))
  | named (names : List String)

/-- An object that is to be stored. -/
structure Draft (Object : ι → Type) where
  kind : ι
  /-- Whether it is stored as a new one. -/
  isNew : Bool
  object : Object kind

end Calls

variable {ι : Type} {Object : ι → Type} [∀ kind, ManagedObject (Object kind)]

namespace Draft

/-- The slot in which the object is to lie, if it names a key. -/
def slot? (d : Draft Object) : Option Slot := (key? d.object).map (.of (Object d.kind))

/-- The object with the stamp of its write. -/
def stamped (d : Draft Object) (stamp : Stamp) : Object d.kind := stampedAs stamp d.isNew d.object

/-- What lies in the slot after the write. -/
def json (d : Draft Object) (stamp : Stamp) : Json := ManagedObject.toJson (d.stamped stamp)

theorem slot?_eq_some_iff {d : Draft Object} {slot : Slot} :
    d.slot? = some slot ↔ ∃ key, key? d.object = some key ∧ slot = .of (Object d.kind) key := by
  simp only [slot?, Option.map_eq_some_iff, @eq_comm _ slot]

end Draft

namespace StoreCall

omit [∀ kind, ManagedObject (Object kind)] in
/-- What a call stores if it succeeds. -/
def draft? : StoreCall Object → Option (Draft Object)
  | insert kind object => some ⟨kind, true, object⟩
  | create kind object => some ⟨kind, true, object⟩
  | update kind object => some ⟨kind, false, object⟩
  | _ => none

omit [∀ kind, ManagedObject (Object kind)] in
/-- Calls that only look things up. -/
def isRead : StoreCall Object → Bool
  | get .. | list .. | names .. => true
  | _ => false

/-- A call whose answers are put into words. -/
def saying {α : Type} (reply : α → Reply Object) (call : StateM SlotStore (Except StoreError α)) :
    StateM SlotStore (Except StoreError (Reply Object)) :=
  fun s => ((call s).1.map reply, (call s).2)

def run : StoreCall Object → StateM SlotStore (Except StoreError (Reply Object))
  | insert _ object => saying (fun _ => .done) (SlotStore.attempt (·.insert object))
  | create kind object => saying (.stored kind) ((SlotStore.calls (Object kind)).create object)
  | update kind object => saying (.stored kind) ((SlotStore.calls (Object kind)).update object)
  | delete kind key => saying (fun _ => .done) ((SlotStore.calls (Object kind)).delete key)
  | get kind key => saying (.found kind) ((SlotStore.calls (Object kind)).get key)
  | list kind ns selector =>
    saying (.listed kind) ((SlotStore.calls (Object kind)).list ns selector)
  | names kind => fun s => (.ok (.named (s.names (Object kind))), s)
  | reject verb name => fun s => (.ok .done, s.reject verb name)
  | allow verb name => fun s => (.ok .done, s.allow verb name)

/-! ## What calls amount to -/

section History

variable (newUid : Nat → String) (calls : List (StoreCall Object))

/-- The store after the calls, which start with an empty one. -/
def after : SlotStore := calls.foldl (fun s c => (c.run s).2) (.empty newUid)

/-- What a call answers that is made after others. -/
def answer (c : StoreCall Object) : Except StoreError (Reply Object) := (c.run (after newUid calls)).1

def Succeeds (c : StoreCall Object) : Prop := (answer newUid calls c).isOk = true

/-- All calls in a row with their answers. -/
def record (s : SlotStore) : List (StoreCall Object) →
    List (StoreCall Object × Except StoreError (Reply Object))
  | [] => []
  | c :: later => (c, (c.run s).1) :: record (c.run s).2 later

/-- The number of successful writes. -/
def writeCount : Nat :=
  (record (.empty newUid) calls).countP fun e => e.1.draft?.isSome && e.2.isOk

/-- The stamp of the write after `n` others. -/
def stampAfter (n : Nat) : Stamp := ⟨n + 1, newUid (n + 1)⟩

/-- The call stores the object in the slot, if it succeeds. -/
def Writes (c : StoreCall Object) (slot : Slot) (d : Draft Object) : Prop :=
  c.draft? = some d ∧ d.slot? = some slot

/-- The call empties the slot or writes to it, if it succeeds. -/
def Touches (c : StoreCall Object) (slot : Slot) : Prop :=
  (∃ kind key, c = .delete kind key ∧ slot = .of (Object kind) key) ∨ ∃ d, c.Writes slot d

/-- A call wrote the object to the slot after `n` other writes, and none that touches the slot has
succeeded since. -/
def LastWrite (slot : Slot) (d : Draft Object) (n : Nat) : Prop :=
  ∃ before c later, calls = before ++ c :: later ∧
    Succeeds newUid before c ∧ c.Writes slot d ∧ n = writeCount newUid before ∧
      ∀ between c' rest, later = between ++ c' :: rest → c'.Touches slot →
        ¬Succeeds newUid (before ++ c :: between) c'

omit [∀ kind, ManagedObject (Object kind)] in
/-- The operation was made to fail for objects of the name, and has not been let through since. -/
def Rejected (verb : Verb) (name : String) : Prop :=
  ∃ before later, calls = before ++ .reject verb name :: later ∧ .allow verb name ∉ later

end History

@[simp] theorem isOk_ok {α : Type} (answer : α) :
    (Except.ok answer : Except StoreError α).isOk = true := rfl

@[simp] theorem isOk_error {α : Type} (e : StoreError) :
    (Except.error e : Except StoreError α).isOk = false := rfl

/-! ## Single calls -/

section Outcomes

variable (s : SlotStore) {kind : ι} {key : ObjectKey} {object : Object kind}

/-- Insertions are never rejected. -/
theorem run_insert (h : key? object = some key) :
    (insert kind object).run s = (.ok .done, (s.write true key object).2) := by
  rw [run, saying, s.calls_insert_apply h]
  rfl

theorem run_create (h : key? object = some key) :
    (create kind object).run s =
      if (.create, key.name) ∈ s.rejections then
        (.error (.rejected .create (ManagedObject.kind (Object kind)) key), s)
      else if (s.objects.get? (.of (Object kind) key)).isSome then
        (.error (.alreadyExists (ManagedObject.kind (Object kind)) key), s)
      else (.ok (.stored kind (stampedAs s.nextStamp true object)), (s.write true key object).2) := by
  rw [run, saying, s.calls_create_apply h]
  split
  · rfl
  · split <;> rfl

theorem run_update (h : key? object = some key) :
    (update kind object).run s =
      if (.update, key.name) ∈ s.rejections then
        (.error (.rejected .update (ManagedObject.kind (Object kind)) key), s)
      else if (s.objects.get? (.of (Object kind) key)).isSome then
        (.ok (.stored kind (stampedAs s.nextStamp false object)), (s.write false key object).2)
      else (.error (.notFound (ManagedObject.kind (Object kind)) key), s) := by
  rw [run, saying, s.calls_update_apply h]
  split
  · rfl
  · split <;> rfl

/-- Nothing is stored that has no key. -/
theorem run_keyless {c : StoreCall Object} {d : Draft Object} (hdraft : c.draft? = some d)
    (h : key? d.object = none) :
    c.run s = (.error (.missingKey (ManagedObject.kind (Object d.kind))), s) := by
  obtain ⟨hinsert, hcreate, hupdate⟩ := s.calls_keyless h
  cases c with
  | insert kind object =>
      obtain rfl := Option.some.inj hdraft
      rw [run, saying, hinsert]
      rfl
  | create kind object =>
      obtain rfl := Option.some.inj hdraft
      rw [run, saying, hcreate]
      rfl
  | update kind object =>
      obtain rfl := Option.some.inj hdraft
      rw [run, saying, hupdate]
      rfl
  | _ => cases hdraft

theorem run_delete (kind : ι) (key : ObjectKey) :
    (delete kind key : StoreCall Object).run s =
      if (.delete, key.name) ∈ s.rejections then
        (.error (.rejected .delete (ManagedObject.kind (Object kind)) key), s)
      else (.ok .done, { s with objects := s.objects.erase (.of (Object kind) key) }) := by
  rw [run, saying, s.calls_delete_apply]
  split <;> rfl

end Outcomes

/-- What a call can do to a store, with its answer. When it fails is told by the lemmas on each call;
what it does when it fails is the same for all. -/
inductive Steps (s : SlotStore) :
    StoreCall Object → Except StoreError (Reply Object) → SlotStore → Prop where
  | fails {c : StoreCall Object} {e : StoreError} : Steps s c (.error e) s
  | writes {c : StoreCall Object} {d : Draft Object} {key : ObjectKey} {reply : Reply Object}
      (hdraft : c.draft? = some d) (hkey : key? d.object = some key) :
      Steps s c (.ok reply) (s.write d.isNew key d.object).2
  | deletes {kind : ι} {key : ObjectKey} :
      Steps s (.delete kind key) (.ok .done)
        { s with objects := s.objects.erase (.of (Object kind) key) }
  | reads {c : StoreCall Object} {r : Except StoreError (Reply Object)} (hread : c.isRead = true) :
      Steps s c r s
  | rejects {verb : Verb} {name : String} :
      Steps s (.reject verb name) (.ok .done) (s.reject verb name)
  | allows {verb : Verb} {name : String} :
      Steps s (.allow verb name) (.ok .done) (s.allow verb name)

theorem steps_run (s : SlotStore) (c : StoreCall Object) : Steps s c (c.run s).1 (c.run s).2 := by
  have hkeyless : ∀ {d : Draft Object}, c.draft? = some d → key? d.object = none →
      Steps s c (c.run s).1 (c.run s).2 := by
    intro d hdraft hkey
    rw [run_keyless s hdraft hkey]
    exact .fails
  cases c with
  | insert kind object =>
      cases hkey : key? object with
      | none => exact hkeyless rfl hkey
      | some key =>
          rw [run_insert s hkey]
          exact .writes (d := ⟨kind, true, object⟩) rfl hkey
  | create kind object =>
      cases hkey : key? object with
      | none => exact hkeyless rfl hkey
      | some key =>
          rw [run_create s hkey]
          split
          · exact .fails
          · split
            · exact .fails
            · exact .writes (d := ⟨kind, true, object⟩) rfl hkey
  | update kind object =>
      cases hkey : key? object with
      | none => exact hkeyless rfl hkey
      | some key =>
          rw [run_update s hkey]
          split
          · exact .fails
          · split
            · exact .writes (d := ⟨kind, false, object⟩) rfl hkey
            · exact .fails
  | delete kind key =>
      rw [run_delete]
      split
      · exact .fails
      · exact .deletes
  | get kind key => exact .reads rfl
  | list kind ns selector => exact .reads rfl
  | names kind => exact .reads rfl
  | reject verb name => exact .rejects
  | allow verb name => exact .allows

/-! ## What single calls preserve -/

section Steps

variable {s s' : SlotStore} {c : StoreCall Object} {r : Except StoreError (Reply Object)}

omit [∀ kind, ManagedObject (Object kind)] in
theorem draft?_of_isRead (h : c.isRead = true) : c.draft? = none := by
  cases c <;> first | rfl | cases h

omit [∀ kind, ManagedObject (Object kind)] in
theorem ne_delete_of_isRead (h : c.isRead = true) (kind : ι) (key : ObjectKey) :
    c ≠ .delete kind key := by
  rintro rfl
  cases h

theorem not_writes (hdraft : c.draft? = none) {slot : Slot} {d : Draft Object} : ¬c.Writes slot d := by
  rintro ⟨hsome, -⟩
  cases hdraft.symm.trans hsome

theorem not_touches (hdraft : c.draft? = none) (hdelete : ∀ kind key, c ≠ .delete kind key)
    (slot : Slot) : ¬c.Touches slot := by
  rintro (⟨kind, key, hcall, -⟩ | ⟨d, hwrites⟩)
  · exact hdelete kind key hcall
  · exact not_writes hdraft hwrites

/-- A call that stores an object touches the slot of this object and no other. -/
theorem writes_iff {d : Draft Object} {key : ObjectKey} (hdraft : c.draft? = some d)
    (hkey : key? d.object = some key) {slot : Slot} {d' : Draft Object} :
    c.Writes slot d' ↔ slot = .of (Object d.kind) key ∧ d' = d := by
  constructor
  · rintro ⟨hdraft', hslot⟩
    obtain rfl := Option.some.inj (hdraft.symm.trans hdraft')
    obtain ⟨key', hkey', rfl⟩ := Draft.slot?_eq_some_iff.1 hslot
    obtain rfl := Option.some.inj (hkey.symm.trans hkey')
    exact ⟨rfl, rfl⟩
  · rintro ⟨rfl, rfl⟩
    exact ⟨hdraft, Draft.slot?_eq_some_iff.2 ⟨key, hkey, rfl⟩⟩

theorem touches_iff {d : Draft Object} {key : ObjectKey} (hdraft : c.draft? = some d)
    (hkey : key? d.object = some key) {slot : Slot} :
    c.Touches slot ↔ slot = .of (Object d.kind) key := by
  constructor
  · rintro (⟨kind, key', rfl, -⟩ | ⟨d', hwrites⟩)
    · cases hdraft
    · exact ((writes_iff hdraft hkey).1 hwrites).1
  · rintro rfl
    exact .inr ⟨d, (writes_iff hdraft hkey).2 ⟨rfl, rfl⟩⟩

theorem touches_delete_iff {kind : ι} {key : ObjectKey} {slot : Slot} :
    (delete kind key : StoreCall Object).Touches slot ↔ slot = .of (Object kind) key := by
  constructor
  · rintro (⟨kind', key', hcall, rfl⟩ | ⟨d, hdraft, -⟩)
    · cases hcall
      rfl
    · cases hdraft
  · rintro rfl
    exact .inl ⟨kind, key, rfl, rfl⟩

theorem Steps.newUid (h : Steps s c r s') : s'.newUid = s.newUid := by
  cases h <;> rfl

theorem Steps.revision (h : Steps s c r s') :
    s'.revision = s.revision + if c.draft?.isSome && r.isOk then 1 else 0 := by
  cases h with
  | fails => simp
  | writes hdraft hkey => simp [hdraft, SlotStore.write]
  | reads hread => simp [draft?_of_isRead hread]
  | deletes | rejects | allows => rfl

theorem Steps.mem_rejections (h : Steps s c r s') (verb : Verb) (name : String) :
    (verb, name) ∈ s'.rejections ↔
      c = .reject verb name ∧ r.isOk = true ∨
        ¬(c = .allow verb name ∧ r.isOk = true) ∧ (verb, name) ∈ s.rejections := by
  cases h with
  | fails => simp
  | writes hdraft hkey =>
      have hreject : c ≠ .reject verb name := by rintro rfl; cases hdraft
      have hallow : c ≠ .allow verb name := by rintro rfl; cases hdraft
      simp [hreject, hallow, SlotStore.write]
  | deletes => simp
  | reads hread =>
      have hreject : c ≠ .reject verb name := by rintro rfl; cases hread
      have hallow : c ≠ .allow verb name := by rintro rfl; cases hread
      simp [hreject, hallow]
  | @rejects verb' name' =>
      simp only [SlotStore.reject, Rejections.mem_reject, reject.injEq, reduceCtorEq,
        not_false_eq_true, true_and, isOk_ok, and_true, @eq_comm _ verb, @eq_comm _ name]
  | @allows verb' name' =>
      simp only [SlotStore.allow, Rejections.mem_allow, allow.injEq, reduceCtorEq, false_or, isOk_ok,
        and_true, @eq_comm _ verb, @eq_comm _ name]

/-- What a call leaves in a slot: what it writes there, or else what was there before, unless it touches
the slot. -/
theorem Steps.get?_iff (h : Steps s c r s') (slot : Slot) (json : Json) :
    s'.objects.get? slot = some json ↔
      (∃ d, c.Writes slot d ∧ json = d.json s.nextStamp) ∧ r.isOk = true ∨
        ¬(c.Touches slot ∧ r.isOk = true) ∧ s.objects.get? slot = some json := by
  cases h with
  | fails => simp
  | @writes _ d key reply hdraft hkey =>
      have hget : (s.write d.isNew key d.object).2.objects.get? slot
          = if slot = .of (Object d.kind) key then some (d.json s.nextStamp)
            else s.objects.get? slot := OrdMap.get?_insert ..
      rw [hget, isOk_ok, and_iff_left rfl, and_iff_left rfl, touches_iff hdraft hkey]
      simp only [writes_iff hdraft hkey]
      by_cases hslot : slot = .of (Object d.kind) key
      · simp [hslot, eq_comm]
      · simp [hslot]
  | @deletes kind key =>
      have hwrites : ¬∃ d, (delete kind key : StoreCall Object).Writes slot d ∧ json = d.json s.nextStamp :=
        fun ⟨_, hwrites, _⟩ => not_writes rfl hwrites
      rw [OrdMap.get?_erase, isOk_ok, touches_delete_iff]
      simp only [hwrites, false_or, and_true]
      by_cases hslot : slot = .of (Object kind) key <;> simp [hslot]
  | reads hread =>
      have hdraft := draft?_of_isRead hread
      simp [not_writes hdraft, not_touches hdraft (ne_delete_of_isRead hread)]
  | @rejects verb name =>
      have hdraft : (reject verb name : StoreCall Object).draft? = none := rfl
      have hdelete : ∀ kind key, (reject verb name : StoreCall Object) ≠ .delete kind key := nofun
      simp [SlotStore.reject, not_writes hdraft, not_touches hdraft hdelete]
  | @allows verb name =>
      have hdraft : (allow verb name : StoreCall Object).draft? = none := rfl
      have hdelete : ∀ kind key, (allow verb name : StoreCall Object) ≠ .delete kind key := nofun
      simp [SlotStore.allow, not_writes hdraft, not_touches hdraft hdelete]

end Steps

/-! ## The invariant of the slots -/

/-- The objects in a store are where they belong, and no two of them have the same version. -/
structure Sound (Object : ι → Type) [∀ kind, ManagedObject (Object kind)] (s : SlotStore)
    (version : Slot → Nat) : Prop where
  /-- In a slot lies an object of the slot's kind that names the slot's key. -/
  filed : ∀ slot json, s.objects.get? slot = some json →
    ∃ (kind : ι) (key : ObjectKey) (object : Object kind),
      slot = .of (Object kind) key ∧ key? object = some key ∧
        (metadata object).resourceVersion = some (toString (version slot)) ∧
          json = ManagedObject.toJson object
  bounded : ∀ slot, (s.objects.get? slot).isSome = true → 0 < version slot ∧ version slot ≤ s.revision
  apart : ∀ slot slot', (s.objects.get? slot).isSome = true → (s.objects.get? slot').isSome = true →
    version slot = version slot' → slot = slot'

/-- A write files the object under a version that is higher than all others. -/
theorem Sound.write {s : SlotStore} {version : Slot → Nat} (h : Sound Object s version) {kind : ι}
    {key : ObjectKey} {object : Object kind} (hkey : key? object = some key) (isNew : Bool) :
    Sound Object (s.write isNew key object).2 fun slot =>
      if slot = .of (Object kind) key then s.revision + 1 else version slot := by
  have hget : ∀ slot, (s.write isNew key object).2.objects.get? slot
      = if slot = .of (Object kind) key then
          some (ManagedObject.toJson (stampedAs s.nextStamp isNew object))
        else s.objects.get? slot := fun slot => OrdMap.get?_insert ..
  refine ⟨?_, ?_, ?_⟩
  · intro slot json hjson
    rw [hget] at hjson
    by_cases hslot : slot = .of (Object kind) key
    · rw [if_pos hslot, Option.some.injEq] at hjson
      refine ⟨kind, key, _, hslot, (key?_stampedAs ..).trans hkey, ?_, hjson.symm⟩
      rw [if_pos hslot, stampedAs, ManagedObject.metadata_mapMetadata]
      rfl
    · rw [if_neg hslot] at hjson ⊢
      exact h.filed slot json hjson
  · intro slot hheld
    rw [hget] at hheld
    by_cases hslot : slot = .of (Object kind) key
    · rw [if_pos hslot]
      exact ⟨Nat.succ_pos _, Nat.le_refl _⟩
    · rw [if_neg hslot] at hheld ⊢
      obtain ⟨hpos, hle⟩ := h.bounded slot hheld
      exact ⟨hpos, Nat.le_succ_of_le hle⟩
  · intro slot slot' hheld hheld' heq
    rw [hget] at hheld hheld'
    by_cases hslot : slot = .of (Object kind) key
    · by_cases hslot' : slot' = .of (Object kind) key
      · exact hslot.trans hslot'.symm
      · rw [if_pos hslot, if_neg hslot'] at heq
        rw [if_neg hslot'] at hheld'
        have hle := (h.bounded slot' hheld').2
        omega
    · by_cases hslot' : slot' = .of (Object kind) key
      · rw [if_neg hslot, if_pos hslot'] at heq
        rw [if_neg hslot] at hheld
        have hle := (h.bounded slot hheld).2
        omega
      · rw [if_neg hslot, if_neg hslot'] at heq
        rw [if_neg hslot] at hheld
        rw [if_neg hslot'] at hheld'
        exact h.apart slot slot' hheld hheld' heq

/-- An element of a list that is longer by one is the last one, or one of the others. -/
theorem concat_eq_append_cons {α : Type} {l before later : List α} {a b : α} :
    l ++ [a] = before ++ b :: later ↔
      (l = before ∧ a = b ∧ later = []) ∨ ∃ rest, later = rest ++ [a] ∧ l = before ++ b :: rest := by
  constructor
  · intro h
    obtain rfl | ⟨rest, last, rfl⟩ := List.eq_nil_or_concat later
    · obtain ⟨rfl, hlast⟩ := List.append_inj' h rfl
      exact .inl ⟨rfl, List.singleton_inj.1 hlast, rfl⟩
    · rw [List.concat_eq_append, ← List.cons_append, ← List.append_assoc] at h
      obtain ⟨rfl, hlast⟩ := List.append_inj' h rfl
      obtain rfl := List.singleton_inj.1 hlast
      exact .inr ⟨rest, List.concat_eq_append, rfl⟩
  · rintro (⟨rfl, rfl, rfl⟩ | ⟨rest, rfl, rfl⟩)
    · rfl
    · rw [List.append_assoc, List.cons_append]

section Histories

variable (newUid : Nat → String) (calls : List (StoreCall Object)) (c : StoreCall Object)

theorem after_append (more : List (StoreCall Object)) :
    after newUid (calls ++ more) = more.foldl (fun s c => (c.run s).2) (after newUid calls) :=
  List.foldl_append

theorem steps_answer :
    Steps (after newUid calls) c (answer newUid calls c) (after newUid (calls ++ [c])) := by
  rw [after_append]
  exact steps_run (after newUid calls) c

theorem record_append (s : SlotStore) (more : List (StoreCall Object)) :
    record s (calls ++ more)
      = record s calls ++ record (calls.foldl (fun s c => (c.run s).2) s) more := by
  induction calls generalizing s with
  | nil => rfl
  | cons first calls ih => rw [List.cons_append, record, record, ih, List.cons_append, List.foldl_cons]

theorem writeCount_append :
    writeCount newUid (calls ++ [c]) = writeCount newUid calls
      + if c.draft?.isSome && (answer newUid calls c).isOk then 1 else 0 := by
  rw [writeCount, record_append, List.countP_append]
  exact congrArg _ (List.countP_singleton ..)

theorem lastWrite_append {slot : Slot} {d : Draft Object} {n : Nat} :
    LastWrite newUid (calls ++ [c]) slot d n ↔
      (c.Writes slot d ∧ n = writeCount newUid calls) ∧ Succeeds newUid calls c ∨
        ¬(c.Touches slot ∧ Succeeds newUid calls c) ∧ LastWrite newUid calls slot d n := by
  constructor
  · rintro ⟨before, first, later, hcalls, hok, hwrites, hn, hlast⟩
    -- the last call is the write itself, or one that came after it
    obtain ⟨rfl, rfl, rfl⟩ | ⟨later, rfl, rfl⟩ := concat_eq_append_cons.1 hcalls
    · exact .inl ⟨⟨hwrites, hn⟩, hok⟩
    · refine .inr ⟨fun h => hlast later c [] rfl h.1 h.2, before, first, later, rfl, hok, hwrites, hn, ?_⟩
      intro between c' rest hlater
      exact hlast between c' (rest ++ [c]) (by rw [hlater, List.append_assoc, List.cons_append])
  · rintro (⟨⟨hwrites, rfl⟩, hok⟩ | ⟨hkept, before, first, later, rfl, hok, hwrites, hn, hlast⟩)
    · refine ⟨calls, c, [], rfl, hok, hwrites, rfl, ?_⟩
      intro between c' rest hnil
      simp at hnil
    · refine ⟨before, first, later ++ [c], by rw [List.append_assoc, List.cons_append], hok, hwrites,
        hn, ?_⟩
      intro between c' rest hlater htouches
      obtain ⟨rfl, rfl, rfl⟩ | ⟨rest, rfl, rfl⟩ := concat_eq_append_cons.1 hlater
      · exact fun hok => hkept ⟨htouches, hok⟩
      · exact hlast between c' rest rfl htouches

omit [∀ kind, ManagedObject (Object kind)] in
theorem rejected_append {verb : Verb} {name : String} :
    Rejected (calls ++ [c]) verb name ↔
      c = .reject verb name ∨ c ≠ .allow verb name ∧ Rejected calls verb name := by
  constructor
  · rintro ⟨before, later, hcalls, hlater⟩
    obtain ⟨-, hc, -⟩ | ⟨later, rfl, rfl⟩ := concat_eq_append_cons.1 hcalls
    · exact .inl hc
    · rw [List.mem_append, not_or, List.mem_singleton] at hlater
      exact .inr ⟨Ne.symm hlater.2, before, later, rfl, hlater.1⟩
  · rintro (rfl | ⟨hc, before, later, rfl, hlater⟩)
    · exact ⟨calls, [], rfl, List.not_mem_nil⟩
    · refine ⟨before, later ++ [c], by rw [List.append_assoc, List.cons_append], ?_⟩
      rw [List.mem_append, not_or, List.mem_singleton]
      exact ⟨hlater, Ne.symm hc⟩

/-! ## What the store has after a history -/

theorem newUid_after : (after newUid calls).newUid = newUid := by
  induction calls using List.reverseRecOn with
  | nil => rfl
  | append_singleton calls c ih => rw [(steps_answer newUid calls c).newUid, ih]

theorem revision_after : (after newUid calls).revision = writeCount newUid calls := by
  induction calls using List.reverseRecOn with
  | nil => rfl
  | append_singleton calls c ih =>
      rw [(steps_answer newUid calls c).revision, writeCount_append, ih]

theorem nextStamp_after :
    (after newUid calls).nextStamp = stampAfter newUid (writeCount newUid calls) := by
  rw [SlotStore.nextStamp, newUid_after, revision_after, stampAfter]

theorem mem_rejections_after (verb : Verb) (name : String) :
    (verb, name) ∈ (after newUid calls).rejections ↔ Rejected calls verb name := by
  induction calls using List.reverseRecOn with
  | nil =>
      refine ⟨nofun, ?_⟩
      rintro ⟨before, later, hcalls, -⟩
      simp at hcalls
  | append_singleton calls c ih =>
      rw [(steps_answer newUid calls c).mem_rejections, rejected_append, ih]
      -- these calls never fail
      have hreject : c = .reject verb name → (answer newUid calls c).isOk = true := by rintro rfl; rfl
      have hallow : c = .allow verb name → (answer newUid calls c).isOk = true := by rintro rfl; rfl
      rw [and_iff_left_of_imp hreject, and_iff_left_of_imp hallow]

/-- The run lemma of the slots: last writes come and go just as what lies in the slots does. -/
theorem get?_after (slot : Slot) (json : Json) :
    (after newUid calls).objects.get? slot = some json ↔
      ∃ d n, LastWrite newUid calls slot d n ∧ json = d.json (stampAfter newUid n) := by
  induction calls using List.reverseRecOn with
  | nil =>
      refine ⟨nofun, ?_⟩
      rintro ⟨d, n, ⟨before, c, later, hcalls, -⟩, -⟩
      simp at hcalls
  | append_singleton calls c ih =>
      rw [(steps_answer newUid calls c).get?_iff, ih, nextStamp_after]
      simp only [lastWrite_append, Succeeds]
      constructor
      · rintro (⟨⟨d, hwrites, rfl⟩, hok⟩ | ⟨hkept, d, n, hlast, rfl⟩)
        · exact ⟨d, _, .inl ⟨⟨hwrites, rfl⟩, hok⟩, rfl⟩
        · exact ⟨d, n, .inr ⟨hkept, hlast⟩, rfl⟩
      · rintro ⟨d, n, ⟨⟨hwrites, rfl⟩, hok⟩ | ⟨hkept, hlast⟩, rfl⟩
        · exact .inl ⟨⟨d, hwrites, rfl⟩, hok⟩
        · exact .inr ⟨hkept, d, n, hlast, rfl⟩

end Histories

end StoreCall

end TabletFleet
