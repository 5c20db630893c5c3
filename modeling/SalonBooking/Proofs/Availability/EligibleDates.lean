import SalonBooking.Availability.Grid
import SalonBooking.Proofs.Calendar.Week
import SalonBooking.Proofs.Form.WellFormed

/-!
# The days of multiple-dates mode

The days on offer are those of a range that begins today, without the excluded
days of the week.  Everything about them is read off their ordinals:
`ordinals_eligibleDates` says that these are the numbers of the range that pass
the filter.

* `mem_eligibleDates_iff`, `pairwise_eligibleDates`: which days are offered, and
  in which order.
* `eligibleDates_prefix`: a longer range only adds days at the end.
* `length_eligibleDates`: whole weeks lose the same number of days each.
* `eligible_dates_exact`: all of it for every form.
-/

namespace SalonBooking

/-- The days of a week without some of them. -/
theorem Weekday.countP_not_contains {excluded : List Weekday} (h : excluded.Nodup) :
    all.countP (fun day => !excluded.contains day) = 7 - excluded.length := by
  have hexcluded : (all.filter fun day => excluded.contains day).Perm excluded := by
    refine (List.perm_ext_iff_of_nodup (List.Nodup.filter _ (by decide)) h).mpr fun day => ?_
    simp only [List.mem_filter, mem_all, true_and, List.contains_iff_mem]
  have hsplit := List.length_eq_countP_add_countP (fun day => excluded.contains day) (l := all)
  rw [List.countP_eq_length_filter, hexcluded.length_eq] at hsplit
  simp only [Bool.not_eq_true, Bool.decide_eq_false] at hsplit
  have hseven : all.length = 7 := rfl
  omega

namespace Schedule

variable {schedule : Schedule} {today : Date} {dates : List Date}

/-- The schedule with another range of days. -/
def withRange (schedule : Schedule) (days : Nat) : Schedule :=
  { schedule with multipleDates := { schedule.multipleDates with rangeDays := days } }

theorem exists_eligibleDates
    (h : today.ordinal + schedule.multipleDates.rangeDays ≤ lastOrdinal) :
    ∃ dates, schedule.eligibleDates today = .ok dates := by
  obtain ⟨days, hdays⟩ := Date.exists_mapM_addDays (Nat.le_succ_of_le h)
  rw [eligibleDates, hdays]
  exact ⟨_, rfl⟩

/-- The days on offer are the numbers of the range that have no excluded day of the week. -/
theorem ordinals_eligibleDates (h : schedule.eligibleDates today = .ok dates) :
    dates.map (·.ordinal) =
      (List.range' today.ordinal schedule.multipleDates.rangeDays).filter fun n =>
        !schedule.multipleDates.excluded.contains (Weekday.ofIndex n) := by
  obtain ⟨days, hdays, hdates⟩ := bind_eq_ok_iff.mp h
  obtain rfl := Except.ok.inj hdates
  rw [← Date.mapM_addDays_eq_ok_iff.mp hdays, List.filter_map]
  rfl

theorem pairwise_eligibleDates (h : schedule.eligibleDates today = .ok dates) :
    dates.Pairwise fun d e => d.ordinal < e.ordinal := by
  have hsorted : (dates.map (·.ordinal)).Pairwise (· < ·) := by
    rw [ordinals_eligibleDates h]
    exact (List.pairwise_lt_range' 1).filter _
  exact List.pairwise_map.mp hsorted

theorem mem_eligibleDates_iff (h : schedule.eligibleDates today = .ok dates) {day : Date} :
    day ∈ dates ↔
      (today.ordinal ≤ day.ordinal ∧
        day.ordinal < today.ordinal + schedule.multipleDates.rangeDays) ∧
      day.weekday ∉ schedule.multipleDates.excluded := by
  have hordinal : day ∈ dates ↔ day.ordinal ∈ dates.map (·.ordinal) :=
    (List.mem_map_of_injective fun _ _ => Date.ext).symm
  rw [hordinal, ordinals_eligibleDates h, List.mem_filter, List.mem_range'_1, Bool.not_eq_true',
    ← Bool.not_eq_true, List.contains_iff_mem]
  rfl

/-- A longer range begins with the same days. -/
theorem eligibleDates_prefix {days : Nat} {later : List Date}
    (h : schedule.eligibleDates today = .ok dates)
    (hlater : (schedule.withRange days).eligibleDates today = .ok later)
    (hdays : schedule.multipleDates.rangeDays ≤ days) : dates <+: later := by
  have hinjective : Function.Injective (·.ordinal : Date → Nat) := fun _ _ => Date.ext
  rw [← List.prefix_map_iff_of_injective hinjective, ordinals_eligibleDates h,
    ordinals_eligibleDates hlater]
  refine List.IsPrefix.filter _ ?_
  show List.range' today.ordinal schedule.multipleDates.rangeDays <+: List.range' today.ordinal days
  obtain ⟨more, rfl⟩ := Nat.exists_eq_add_of_le hdays
  rw [← List.range'_append_1]
  exact List.prefix_append _ _

/-- Whole weeks offer the same number of days each, on whatever day they begin. -/
theorem length_eligibleDates (h : schedule.eligibleDates today = .ok dates)
    (hexcluded : schedule.multipleDates.excluded.Nodup) {weeks : Nat}
    (hweeks : schedule.multipleDates.rangeDays = 7 * weeks) :
    dates.length = weeks * (7 - schedule.multipleDates.excluded.length) := by
  rw [← List.length_map (·.ordinal), ordinals_eligibleDates h, hweeks,
    ← List.countP_eq_length_filter, ← Weekday.countP_not_contains hexcluded]
  exact Weekday.countP_range'_weeks (fun day => !schedule.multipleDates.excluded.contains day)
    today.ordinal weeks

end Schedule

/-- If the range stays in the calendar, the days on offer are exactly those of the range that are no
excluded day of the week, in their order.  A longer range begins with them, and a range of whole
weeks has as many as there are weeks times days of the week that are not excluded. -/
theorem eligible_dates_exact {limits : Limits} {source : Source} {config : FormConfig}
    (h : normalize limits source = .ok config) {today : Date}
    (hrange : today.ordinal + config.schedule.multipleDates.rangeDays ≤ lastOrdinal) :
    let settings := config.schedule.multipleDates
    ∃ dates, config.schedule.eligibleDates today = .ok dates ∧
      (dates.Pairwise fun d e => d.ordinal < e.ordinal) ∧
      (∀ day : Date, day ∈ dates ↔
        (today.ordinal ≤ day.ordinal ∧ day.ordinal < today.ordinal + settings.rangeDays) ∧
        day.weekday ∉ settings.excluded) ∧
      (∀ days, settings.rangeDays ≤ days →
        (today.ordinal + days ≤ lastOrdinal →
          ∃ later, (config.schedule.withRange days).eligibleDates today = .ok later) ∧
        ∀ later, (config.schedule.withRange days).eligibleDates today = .ok later →
          dates <+: later) ∧
      ∀ weeks, settings.rangeDays = 7 * weeks →
        dates.length = weeks * (7 - settings.excluded.length) := by
  have hexcluded : config.schedule.multipleDates.excluded.Nodup :=
    (wellFormed_of_normalize h).schedule.multipleDates.excluded.nodup (by decide)
  obtain ⟨dates, hdates⟩ := Schedule.exists_eligibleDates hrange
  refine ⟨dates, hdates, Schedule.pairwise_eligibleDates hdates,
    fun day => Schedule.mem_eligibleDates_iff hdates, fun days hdays => ⟨fun hin => ?_, ?_⟩,
    fun weeks => Schedule.length_eligibleDates hdates hexcluded⟩
  · exact Schedule.exists_eligibleDates hin
  · exact fun later hlater => Schedule.eligibleDates_prefix hdates hlater hdays

/-- A salon that offers the days of two weeks, but no Sundays and no Wednesdays. -/
def salonWithRange : Json :=
  .obj [("calendar_settings", .obj [("booking_mode", .str "multiple_dates"),
    ("multiple_dates_settings", .obj [("date_range_days", .int 14),
      ("exclude_weekdays", .arr [.int 3, .int 0, .int 3, .int 9])])])]

/-- Its configuration. -/
def rangeConfig : FormConfig :=
  .ofStored ⟨salonWithRange, salonWithRange, .null⟩

/-- The Sunday before a leap day. -/
def sundayBeforeLeapDay : Date := ⟨738941, by decide⟩

/-- The two weeks go over the leap day and the end of the month, and ten of their days are
offered. -/
theorem eligible_dates_exact_leap_year :
    normalize .standard (.value salonWithRange) = .ok rangeConfig ∧
      sundayBeforeLeapDay.civil = (2024, 2, 25) ∧
      sundayBeforeLeapDay.ordinal + rangeConfig.schedule.multipleDates.rangeDays ≤ lastOrdinal ∧
      ∃ dates, rangeConfig.schedule.eligibleDates sundayBeforeLeapDay = .ok dates ∧
        dates.length = 10 ∧ sundayBeforeLeapDay ∉ dates ∧
        ∃ day ∈ dates, day.civil = (2024, 3, 1) := by
  have hconfig : normalize .standard (.value salonWithRange) = .ok rangeConfig := rfl
  have hrange : sundayBeforeLeapDay.ordinal + rangeConfig.schedule.multipleDates.rangeDays ≤
      lastOrdinal := by
    decide +kernel
  have hten : 2 * (7 - rangeConfig.schedule.multipleDates.excluded.length) = 10 := by
    decide +kernel
  obtain ⟨dates, hdates, -, hmem, -, hlength⟩ := eligible_dates_exact hconfig hrange
  have hfriday := (hmem ⟨738946, by decide⟩).mpr (by decide +kernel)
  have hsunday : sundayBeforeLeapDay ∉ dates :=
    fun hin => absurd ((hmem _).mp hin) (by decide +kernel)
  exact ⟨hconfig, by decide +kernel, hrange, dates, hdates,
    (hlength 2 (by decide +kernel)).trans hten, hsunday, _, hfriday, by decide +kernel⟩

end SalonBooking
