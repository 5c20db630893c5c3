import SalonBooking.Calendar.Moment
import SalonBooking.Proofs.Calendar.Date

/-!
# Clocks of different zones

In a zone that is never a day or more away from universal time a moment has its
own date up to two days, and away from both ends of the calendar its clock can be
read.  What a clock shows is decided by the instant alone: the time of a moment
less its offset.

* `TimeZone.isWithinDay_ofChanges`: a zone given by its changes.
* `LocalTime.ofTotal?_eq_some_iff`: a time and its microseconds determine each other.
* `Moment.IsPresent.exists_localTime`: a present moment has a time in such a zone.
* `Moment.localTime_eq_of_instant?`: the same instant is the same time.
* `Moment.localTime_fixed_eq_ok_iff`: a clock that never changes is the instant, shifted
  once.
-/

namespace SalonBooking

/-! ## Zones -/

namespace TimeZone

/-- The seconds of a day. -/
def secondsPerDay : Int := 86400

/-- An offset of less than a day. -/
def IsOffset (seconds : Int) : Prop := -secondsPerDay < seconds ∧ seconds < secondsPerDay

instance (seconds : Int) : Decidable (IsOffset seconds) :=
  inferInstanceAs (Decidable (_ ∧ _))

/-- A zone that is never a day or more away from universal time. -/
def IsWithinDay (zone : TimeZone) : Prop :=
  ∀ instant, IsOffset (zone.offsetAt instant)

/-- A zone with offsets of less than a day is never further away, whatever the instants of its
changes are. -/
theorem isWithinDay_ofChanges {first : Int} {changes : List (Int × Int)} (hfirst : IsOffset first)
    (hchanges : ∀ change ∈ changes, IsOffset change.2) : (ofChanges first changes).IsWithinDay := by
  intro instant
  rw [ofChanges]
  induction changes generalizing first with
  | nil => exact hfirst
  | cons change rest ih =>
    refine ih ?_ fun other hother => hchanges other (List.mem_cons_of_mem change hother)
    show IsOffset (if change.1 ≤ instant then change.2 else first)
    split
    · exact hchanges change List.mem_cons_self
    · exact hfirst

theorem isWithinDay_tokyo : tokyo.IsWithinDay :=
  isWithinDay_ofChanges (by decide) (by decide)

end TimeZone

/-! ## Local times -/

namespace LocalTime

/-- A number of microseconds since the start of the day of ordinal zero that lies in the years 1
to 9999. -/
def IsInCalendar (micros : Int) : Prop :=
  (microsPerDay : Int) ≤ micros ∧ micros < (lastOrdinal + 1) * (microsPerDay : Int)

instance (micros : Int) : Decidable (IsInCalendar micros) :=
  inferInstanceAs (Decidable (_ ∧ _))

/-- A time and its microseconds determine each other. -/
theorem ofTotal?_eq_some_iff {micros : Int} {t : LocalTime} :
    ofTotal? micros = some t ↔ (t.total : Int) = micros := by
  have hday : (0 : Int) < microsPerDay := Int.natCast_pos.mpr microsPerDay_pos
  have hbound := t.micros_lt
  have htotal : (t.total : Int) = t.micros + microsPerDay * (t.date.ordinal : Int) := by
    rw [total, Int.natCast_add, Int.natCast_mul, Int.mul_comm, Int.add_comm]
  have hrest := Int.emod_nonneg micros (Int.ne_of_gt hday)
  have hparts : ofTotal? micros = some t ↔
      micros / microsPerDay = t.date.ordinal ∧ micros % microsPerDay = t.micros := by
    obtain ⟨date, rest, hrest'⟩ := t
    simp only [ofTotal?, Option.map_eq_some_iff, Date.ofOrdinal?_eq_some_iff, mk.injEq]
    constructor
    · rintro ⟨_, hdate, rfl, hmicros⟩
      exact ⟨hdate.symm, by omega⟩
    · rintro ⟨hdate, hmicros⟩
      exact ⟨date, hdate.symm, rfl, by omega⟩
  rw [hparts, htotal, Int.ediv_emod_unique hday]
  omega

theorem exists_ofTotal?_iff {micros : Int} :
    (∃ t, ofTotal? micros = some t) ↔ IsInCalendar micros := by
  have hday : (0 : Int) < microsPerDay := Int.natCast_pos.mpr microsPerDay_pos
  have hdate : (∃ t, ofTotal? micros = some t) ↔
      ∃ date, Date.ofOrdinal? (micros / microsPerDay) = some date := by
    simp only [ofTotal?, Option.map_eq_some_iff]
    constructor
    · rintro ⟨_, date, hdate, -⟩
      exact ⟨date, hdate⟩
    · rintro ⟨date, hdate⟩
      exact ⟨_, date, hdate, rfl⟩
  rw [hdate, Date.exists_ofOrdinal?_iff, IsInCalendar, Int.le_ediv_iff_mul_le hday,
    ← Int.lt_add_one_iff (b := (lastOrdinal : Int)), Int.ediv_lt_iff_lt_mul hday, Int.one_mul]

theorem addMicros_eq_ok_iff {t later : LocalTime} {micros : Int} :
    t.addMicros micros = .ok later ↔ (later.total : Int) = t.total + micros := by
  rw [addMicros, ← ofTotal?_eq_some_iff]
  cases ofTotal? (t.total + micros) <;> simp

/-- Midnight at the start of a day. -/
def midnight (day : Date) : LocalTime := ⟨day, 0, microsPerDay_pos⟩

theorem total_midnight (day : Date) : (midnight day).total = day.ordinal * microsPerDay := by
  simp only [total, midnight, Nat.add_zero]

theorem ordinal_eq (t : LocalTime) : t.date.ordinal = t.total / microsPerDay := by
  rw [total, Nat.mul_comm, Nat.mul_add_div microsPerDay_pos, Nat.div_eq_of_lt t.micros_lt,
    Nat.add_zero]

theorem midnight_le_iff {day : Date} {t : LocalTime} :
    (midnight day).total ≤ t.total ↔ day.ordinal ≤ t.date.ordinal := by
  rw [ordinal_eq t, Nat.le_div_iff_mul_le microsPerDay_pos, total_midnight]

/-- Less than a day away lies the same day or one of those beside it. -/
theorem exists_addMicros {t : LocalTime} {micros : Int}
    (hbefore : -(microsPerDay : Int) < micros) (hafter : micros < microsPerDay)
    (hlow : 1 < t.date.ordinal) (hhigh : t.date.ordinal < lastOrdinal) :
    ∃ later, t.addMicros micros = .ok later ∧ t.date.ordinal ≤ later.date.ordinal + 1 ∧
      later.date.ordinal ≤ t.date.ordinal + 1 := by
  have hday : microsPerDay = 86400000000 := by decide
  have hparts (t : LocalTime) :
      t.total = t.date.ordinal * 86400000000 + t.micros ∧ t.micros < 86400000000 := by
    rw [← hday]
    exact ⟨rfl, t.micros_lt⟩
  have ht := hparts t
  rw [hday] at hbefore hafter
  have hrange : IsInCalendar (t.total + micros) := by
    rw [IsInCalendar, hday]
    omega
  obtain ⟨later, hlater⟩ := exists_ofTotal?_iff.mpr hrange
  rw [ofTotal?_eq_some_iff] at hlater
  have hlater' := hparts later
  exact ⟨later, addMicros_eq_ok_iff.mpr hlater, by omega, by omega⟩

/-- A whole offset away lies the same day or one of those beside it. -/
theorem exists_addSeconds {t : LocalTime} {seconds : Int}
    (hseconds : TimeZone.IsOffset seconds) (hlow : 1 < t.date.ordinal)
    (hhigh : t.date.ordinal < lastOrdinal) :
    ∃ later, t.addSeconds seconds = .ok later ∧ t.date.ordinal ≤ later.date.ordinal + 1 ∧
      later.date.ordinal ≤ t.date.ordinal + 1 := by
  obtain ⟨hbefore, hafter⟩ := hseconds
  rw [TimeZone.secondsPerDay] at hbefore hafter
  have hmicros : -(microsPerDay : Int) < seconds * microsPerSecond ∧
      seconds * microsPerSecond < microsPerDay := by
    have hsecond : (microsPerSecond : Int) = 1000000 := by decide
    have hday : (microsPerDay : Int) = 86400000000 := by decide
    rw [hsecond, hday]
    omega
  exact exists_addMicros hmicros.1 hmicros.2 hlow hhigh

end LocalTime

namespace Moment

/-- A time of the store's own clock is what that clock shows. -/
theorem localTime_ofLocal (t : LocalTime) (zone : TimeZone) : (ofLocal t).localTime zone = .ok t :=
  rfl

/-! ### Instants -/

/-- The microseconds of universal time from the start of the day of ordinal zero to a moment whose
offset is known. -/
def instant? (m : Moment) : Option Int :=
  m.offset.map fun offset => m.clock.total - offset

section Instant

variable {m : Moment} {zone : TimeZone} {instant : Int}

/-- What a clock shows at a moment with an offset is decided by its instant. -/
theorem localTime_eq (h : m.instant? = some instant) :
    m.localTime zone =
      match LocalTime.ofTotal? instant with
      | some universal => universal.addSeconds (zone.offsetAt universal.epochSeconds)
      | none => .error .outOfRange := by
  obtain ⟨offset, hoffset, rfl⟩ := Option.map_eq_some_iff.mp h
  rw [localTime, hoffset, Int.sub_eq_add_neg]
  simp only [LocalTime.addMicros]
  cases LocalTime.ofTotal? (m.clock.total + -offset) <;> rfl

theorem localTime_eq_of_instant? {m' : Moment} (h : m.instant? = some instant)
    (h' : m'.instant? = some instant) : m.localTime zone = m'.localTime zone := by
  rw [localTime_eq h, localTime_eq h']

/-- A clock that never changes shows the instant, shifted once by its offset, as long as both lie
within the calendar. -/
theorem localTime_fixed_eq_ok_iff {east : Int} {current : LocalTime}
    (h : m.instant? = some instant) :
    m.localTime (.fixed east) = .ok current ↔ LocalTime.IsInCalendar instant ∧
      (current.total : Int) = instant + east * microsPerSecond := by
  rw [localTime_eq h, ← LocalTime.exists_ofTotal?_iff]
  cases hinstant : LocalTime.ofTotal? instant with
  | none => simp
  | some universal =>
    rw [← LocalTime.ofTotal?_eq_some_iff.mp hinstant]
    simp [LocalTime.addSeconds, LocalTime.addMicros_eq_ok_iff]

end Instant

/-! ### The present -/

/-- A moment of the years 1900 to 9000 whose offset, if it has one, is less than a day. -/
structure IsPresent (m : Moment) : Prop where
  year : 1900 ≤ m.clock.date.year ∧ m.clock.date.year ≤ 9000
  offset : ∀ micros ∈ m.offset, -(microsPerDay : Int) < micros ∧ micros < microsPerDay

/-- The clock can be read at a present moment, and shows a day at most two days away. -/
theorem IsPresent.exists_localTime {m : Moment} {zone : TimeZone} (h : m.IsPresent)
    (hzone : zone.IsWithinDay) :
    ∃ current, m.localTime zone = .ok current ∧
      current.date.ordinal ≤ m.clock.date.ordinal + 2 := by
  have hlow : 1900 ≤ m.clock.date.ordinal := Nat.le_trans h.year.1 m.clock.date.year_le_ordinal
  have hhigh : m.clock.date.ordinal ≤ 3287182 := Date.ordinal_le_of_year_le h.year.2
  have hlast : lastOrdinal = 3652059 := rfl
  rw [localTime]
  cases hoffset : m.offset with
  | none => exact ⟨m.clock, rfl, Nat.le_add_right _ 2⟩
  | some micros =>
    have hback : -(microsPerDay : Int) < -micros ∧ -micros < microsPerDay := by
      have hmicros := h.offset micros hoffset
      omega
    obtain ⟨universal, huniversal, hbefore, hafter⟩ :=
      LocalTime.exists_addMicros (t := m.clock) hback.1 hback.2 (by omega) (by omega)
    obtain ⟨current, hcurrent, -, hcurrent'⟩ :=
      LocalTime.exists_addSeconds (t := universal) (hzone universal.epochSeconds)
        (by omega) (by omega)
    refine ⟨current, ?_, by omega⟩
    show (m.clock.addMicros (-micros) >>= fun universal =>
      universal.addSeconds (zone.offsetAt universal.epochSeconds)) = .ok current
    rw [huniversal]
    exact hcurrent

end Moment

end SalonBooking
