import ClockOrchestrator.Python.Errors
import Mathlib.Data.Int.Order.Basic

namespace Python

abbrev Instant := Int

abbrev Date := Int

def minuteMicros : Int := 60000000

def dayMicros : Int := 86400000000

abbrev TimeOfDay := Fin 86400000000

def timeOfHour (hour : Fin 24) : TimeOfDay := ⟨hour.val * 3600000000, by omega⟩

-- A zone is what the time zone database says of it: the UTC offset in force at a wall
-- clock reading (fold picks the second pass of a repeated hour) and the reading at an instant,
-- from which astimezone finds the way back.
structure Zone where
  utcOffset : Int → Bool → Int
  fromUtc : Instant → Int × Bool
  roundTrip : ∀ u, (fromUtc u).1 - utcOffset (fromUtc u).1 (fromUtc u).2 = u

def Zone.fixed (offset : Int) : Zone where
  utcOffset := fun _ _ => offset
  fromUtc := fun u => (u + offset, false)
  roundTrip := fun u => by omega

def Zone.switched (change : Instant) (before after : Int) : Zone where
  utcOffset := fun wall fold =>
    if wall < change + after then before
    else if wall < change + before then if fold then after else before
    else after
  fromUtc := fun u =>
    if u < change then (u + before, false) else (u + after, decide (u + after < change + before))
  roundTrip := fun u => by
    by_cases h : u < change
    · simp [h]
    · have hlate : ¬ u + after < change + after := by simpa using h
      by_cases hagain : u + after < change + before
      · simp [h, hagain]
      · simp [h, hagain]

inductive Tz where
  | fixed (offset : Int)
  | zoneInfo
  deriving DecidableEq, Repr

structure Datetime where
  wall : Int
  fold : Bool
  tz : Tz
  deriving DecidableEq, Repr

namespace Datetime

def utc (u : Instant) : Datetime := ⟨u, false, .fixed 0⟩

def utcoffset (z : Zone) (d : Datetime) : Int :=
  match d.tz with
  | .fixed offset => offset
  | .zoneInfo => z.utcOffset d.wall d.fold

def instant (z : Zone) (d : Datetime) : Instant := d.wall - d.utcoffset z

def inZone (z : Zone) (u : Instant) : Datetime :=
  ⟨(z.fromUtc u).1, (z.fromUtc u).2, .zoneInfo⟩

def combine (date : Date) (time : TimeOfDay) : Datetime :=
  ⟨date * dayMicros + time.val, false, .zoneInfo⟩

def date (d : Datetime) : Date := d.wall / dayMicros

-- Datetimes that share one tzinfo compare by wall clock, all others by instant.
def lt (z : Zone) (a b : Datetime) : Bool :=
  if a.tz = b.tz then decide (a.wall < b.wall) else decide (a.instant z < b.instant z)

def le (z : Zone) (a b : Datetime) : Bool :=
  if a.tz = b.tz then decide (a.wall ≤ b.wall) else decide (a.instant z ≤ b.instant z)

-- datetime.min is midnight of ordinal day 1.
def subMinutes (d : Datetime) (minutes : Nat) : Except PyError Datetime :=
  if d.wall - minutes * minuteMicros < dayMicros then
    .error (.overflowError "date value out of range")
  else
    .ok ⟨d.wall - minutes * minuteMicros, false, d.tz⟩

-- The days that a datetime can show are the ordinal days 1 to 3652059.
def minInstant : Instant := dayMicros

def endInstant : Instant := 3652060 * dayMicros

def addMinutes (d : Datetime) (minutes : ℕ) : Except PyError Datetime :=
  if endInstant ≤ d.wall + minutes * minuteMicros then
    .error (.overflowError "date value out of range")
  else
    .ok ⟨d.wall + minutes * minuteMicros, false, d.tz⟩

theorem lt_addMinutes {z : Zone} {d later : Datetime} {minutes : ℕ} (hpos : 0 < minutes)
    (h : d.addMinutes minutes = .ok later) : lt z d later = true := by
  have hmicros : 0 < (minutes : ℤ) * minuteMicros :=
    Int.mul_pos (Int.natCast_pos.mpr hpos) (by decide)
  unfold addMinutes at h
  split at h
  · cases h
  · cases h
    have hlater : d.wall < d.wall + minutes * minuteMicros := Int.lt_add_of_pos_right _ hmicros
    simp [lt, hlater]

def checkedUtc (u : Instant) : Except PyError Instant :=
  if minInstant ≤ u ∧ u < endInstant then .ok u
  else .error (.overflowError "date value out of range")

theorem checkedUtc_ok {u now : Instant} (h : checkedUtc u = .ok now) : now = u := by
  unfold checkedUtc at h
  split at h
  · exact (Except.ok.inj h).symm
  · cases h

def isoformat (z : Zone) (d : Datetime) : Int × Int := (d.wall, d.utcoffset z)

@[simp] theorem instant_utc (z : Zone) (u : Instant) : (utc u).instant z = u := by
  simp [utc, instant, utcoffset]

@[simp] theorem instant_inZone (z : Zone) (u : Instant) : (inZone z u).instant z = u :=
  z.roundTrip u

@[simp] theorem tz_utc (u : Instant) : (utc u).tz = .fixed 0 := rfl

@[simp] theorem tz_inZone (z : Zone) (u : Instant) : (inZone z u).tz = .zoneInfo := rfl

@[simp] theorem tz_combine (date : Date) (time : TimeOfDay) :
    (combine date time).tz = .zoneInfo := rfl

theorem le_iff_not_lt (z : Zone) (a b : Datetime) : le z a b = true ↔ lt z b a = false := by
  unfold le lt
  by_cases h : a.tz = b.tz
  · simp [h]
  · simp [h, Ne.symm h]

theorem le_eq_not_lt (z : Zone) (a b : Datetime) : le z a b = !lt z b a := by
  rw [Bool.eq_iff_iff]
  simp [le_iff_not_lt]

end Datetime

inductive Timestamp where
  | naive (wall : Int)
  | aware (d : Datetime)
  deriving DecidableEq, Repr

-- Subtraction of a timedelta moves the wall clock and keeps the zone.
def Timestamp.sub (span : Int) : Timestamp → Except PyError Timestamp
  | .naive wall =>
      if wall - span < dayMicros then .error (.overflowError "date value out of range")
      else .ok (.naive (wall - span))
  | .aware d =>
      if d.wall - span < dayMicros then .error (.overflowError "date value out of range")
      else .ok (.aware ⟨d.wall - span, false, d.tz⟩)

def Timestamp.toUtc (z : Zone) : Timestamp → Instant
  | .naive wall => wall
  | .aware d => d.instant z

@[simp] theorem Timestamp.toUtc_utc (z : Zone) (u : Instant) :
    (Timestamp.aware (.utc u)).toUtc z = u := by
  simp [Timestamp.toUtc]

theorem Timestamp.sub_utc {u : Instant} {span : Int} {t : Timestamp}
    (h : Timestamp.sub span (.aware (.utc u)) = .ok t) : t = .aware (.utc (u - span)) := by
  rw [Timestamp.sub] at h
  split at h
  · cases h
  · cases h
    rfl

end Python
