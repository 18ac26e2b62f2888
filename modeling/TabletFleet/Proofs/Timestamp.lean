import TabletFleet.Timestamp

set_option autoImplicit false

/-! # Time that passes

Points in time are ordered by day, second and fraction. The span between two of them need not keep to that
order where leap seconds are about: it may be a second off, and it may shrink when the later of the two
moves on. Over half a minute none of this shows, if the earlier of the two is in whole seconds
(`Timestamp.halfMinute_since_mono`), because a leap second can only end a minute. -/

namespace TabletFleet.Timestamp

instance : LE Timestamp where
  le t t' := t.day < t'.day ∨
    t.day = t'.day ∧ (t.second < t'.second ∨ t.second = t'.second ∧ t.nano ≤ t'.nano)

theorem le_iff {t t' : Timestamp} : t ≤ t' ↔ t.day < t'.day ∨
    t.day = t'.day ∧ (t.second < t'.second ∨ t.second = t'.second ∧ t.nano ≤ t'.nano) := Iff.rfl

/-- One in a leap second. -/
def leap (t : Timestamp) : Int := if nanosPerSecond ≤ t.nano then 1 else 0

theorem leap_cases (t : Timestamp) :
    t.leap = 0 ∧ t.nano < nanosPerSecond ∨ t.leap = 1 ∧ nanosPerSecond ≤ t.nano ∧ t.second % 60 = 59 := by
  unfold leap
  split
  · next hleap => exact .inr ⟨rfl, hleap, t.minute_end hleap⟩
  · next hleap => exact .inl ⟨rfl, Nat.lt_of_not_le hleap⟩

/-- The seconds from `t` to `now` by their days and seconds. The leap second in which the earlier of the
two times of day lies is counted. -/
def secondsSince (now t : Timestamp) : Int :=
  (now.day - t.day) * 86400 + ((now.second : Int) - t.second) +
    if t.second < now.second then t.leap else if now.second < t.second then -now.leap else 0

theorem since_eq (now t : Timestamp) :
    now.since t = now.secondsSince t * nanosPerSecond + ((now.nano : Int) - t.nano) := by
  unfold since secondsSince leap
  split
  · rfl
  · split
    · split <;> rfl
    · rfl

theorem secondsSince_cases (now t : Timestamp) :
    let clock := (now.day - t.day) * 86400 + ((now.second : Int) - t.second)
    t.second < now.second ∧ now.secondsSince t = clock + t.leap ∨
      now.second < t.second ∧ now.secondsSince t = clock - now.leap ∨
      now.second = t.second ∧ now.secondsSince t = clock := by
  dsimp only
  unfold secondsSince
  split
  · omega
  · split <;> omega

/-- The span to a time that is not earlier is less than a second, if it is positive at all. -/
theorem since_lt_of_le {now t : Timestamp} (h : now ≤ t) : now.since t < nanosPerSecond := by
  have hsince := now.secondsSince_cases t
  have hnow := now.leap_cases
  have ht := t.leap_cases
  have hnano := now.nano_lt
  have hsecond := now.second_lt
  rw [le_iff] at h
  rw [since_eq]
  unfold nanosPerSecond at *
  dsimp only at hsince
  omega

/-- Without fractions of a second, a time is at the beginning of its second, or of a leap second. -/
theorem nano_of_wholeSeconds {t : Timestamp} (h : t.wholeSeconds = t) :
    (t.nano : Int) = t.leap * nanosPerSecond := by
  have hnano : wholeNano t.nano = t.nano := congrArg nano h
  unfold wholeNano at hnano
  unfold leap
  split at hnano
  · next hleap => rw [if_pos hleap, ← hnano, Int.one_mul]
  · next hleap => rw [if_neg hleap, ← hnano, Int.zero_mul]; rfl

/-- From a time in whole seconds on, whole seconds are over when so many leap seconds and others are. -/
theorem seconds_le_since_iff {now t : Timestamp} (ht : t.wholeSeconds = t) (n : Int) :
    n * nanosPerSecond ≤ now.since t ↔ n ≤ now.secondsSince t + now.leap - t.leap := by
  have hwhole := nano_of_wholeSeconds ht
  have hnow := now.leap_cases
  have hnano := now.nano_lt
  rw [since_eq, hwhole]
  unfold nanosPerSecond at *
  omega

/-- Once half a minute is over since a time in whole seconds, it stays over. -/
theorem halfMinute_since_mono {t now later : Timestamp} (ht : t.wholeSeconds = t) (hle : now ≤ later)
    (h : 30 * (nanosPerSecond : Int) ≤ now.since t) : 30 * (nanosPerSecond : Int) ≤ later.since t := by
  rw [seconds_le_since_iff ht] at h ⊢
  have hsince := now.secondsSince_cases t
  have hsince' := later.secondsSince_cases t
  have hnow := now.leap_cases
  have hlater := later.leap_cases
  have ht := t.leap_cases
  have hsecond := now.second_lt
  rw [le_iff] at hle
  dsimp only at hsince hsince'
  omega

end TabletFleet.Timestamp
