import TabletFleet.Cluster.ObjectMeta
import TabletFleet.Labels

set_option autoImplicit false

/-! # Drain and rollout markers

Two handshakes with agents outside this program, both carried by annotations.

* *Drain*: this program requests a drain by `drain.planetscale.com/started`; an agent carries it out
  and adds `drain.planetscale.com/finished`.
* *Rollout*: a change that needs a restart is announced by `rollout.planetscale.com/scheduled`; a
  driver adds `rollout.planetscale.com/released` when the object may be recreated. -/

namespace TabletFleet.ObjectMeta

def drainStarted (m : ObjectMeta) : Bool := m.hasAnnotation AnnotationKey.drainStarted

def drainFinished (m : ObjectMeta) : Bool := m.hasAnnotation AnnotationKey.drainFinished

/-- Request a drain, unless one was requested before: the first reason is kept. -/
def startDrain (m : ObjectMeta) (reason : String) : ObjectMeta :=
  if m.drainStarted then m else m.annotate AnnotationKey.drainStarted reason

/-- The changes that wait for a restart. -/
def scheduled? (m : ObjectMeta) : Option String := m.annotation? AnnotationKey.rolloutScheduled

def released (m : ObjectMeta) : Bool := m.hasAnnotation AnnotationKey.rolloutReleased

/-- Announce changes that need a restart. -/
def schedule (m : ObjectMeta) (changes : String) : ObjectMeta :=
  m.annotate AnnotationKey.rolloutScheduled changes

/-- Take both rollout markers off. -/
def unschedule (m : ObjectMeta) : ObjectMeta :=
  { m with annotations := m.annotations.map fun a =>
      (a.erase AnnotationKey.rolloutScheduled).erase AnnotationKey.rolloutReleased }

theorem drainStarted_startDrain (m : ObjectMeta) (reason : String) :
    (m.startDrain reason).drainStarted = true := by
  rw [startDrain]
  split
  · assumption
  · simp [drainStarted, hasAnnotation, annotation?_annotate]

theorem startDrain_startDrain (m : ObjectMeta) (reason reason' : String) :
    (m.startDrain reason).startDrain reason' = m.startDrain reason := by
  rw [startDrain, if_pos (drainStarted_startDrain m reason)]

theorem scheduled?_schedule (m : ObjectMeta) (changes : String) :
    (m.schedule changes).scheduled? = some changes := by
  simp [schedule, scheduled?, annotation?_annotate]

theorem annotation?_unschedule (m : ObjectMeta) (key : String) :
    m.unschedule.annotation? key
      = if key = AnnotationKey.rolloutReleased ∨ key = AnnotationKey.rolloutScheduled then none
        else m.annotation? key := by
  cases h : m.annotations with
  | none => simp [unschedule, annotation?, h]
  | some a =>
    simp only [unschedule, annotation?, h, Option.map_some, Option.bind_some, OrdMap.get?_erase]
    split <;> split <;> simp_all

end TabletFleet.ObjectMeta
