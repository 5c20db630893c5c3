import SalonBooking.Calendar.Date
import SalonBooking.Proofs.Data.Results

/-!
# Counting days

* `ofOrdinal?_eq_some_iff`, `addDays_eq_ok_iff`: a day is its ordinal.
* `addDays_eq_ok`, `addDays_eq_error`: days are counted on up to the end of year
  9999 and not beyond.
* `mapM_addDays_eq_ok_iff`, `exists_mapM_addDays`: days in a row.
* `exists_sevenDays`: a week has its seven days unless it leaves that year.
* `ordinal_le_of_year_le`, `year_le_ordinal`: where the days of a year lie.
-/

namespace SalonBooking.Date

variable {d : Date}

/-! ## Counting on -/

@[ext] theorem ext {d e : Date} (h : d.ordinal = e.ordinal) : d = e := by
  obtain ⟨_, _⟩ := d
  obtain ⟨_, _⟩ := e
  obtain rfl := h
  rfl

theorem ofOrdinal?_eq_some_iff {n : Int} : ofOrdinal? n = some d ↔ (d.ordinal : Int) = n := by
  rw [ofOrdinal?]
  constructor
  · intro h
    split at h
    · obtain rfl := Option.some.inj h
      show ((n.toNat : Nat) : Int) = n
      omega
    · cases h
  · rintro rfl
    exact dif_pos d.inRange

theorem exists_ofOrdinal?_iff {n : Int} :
    (∃ d, ofOrdinal? n = some d) ↔ 1 ≤ n ∧ n ≤ (lastOrdinal : Int) := by
  simp only [ofOrdinal?_eq_some_iff]
  constructor
  · rintro ⟨d, rfl⟩
    have hrange := d.inRange
    omega
  · intro hrange
    exact ⟨⟨n.toNat, by omega⟩, Int.toNat_of_nonneg (by omega)⟩

theorem addDays_eq_ok_iff {n : Int} {later : Date} :
    d.addDays n = .ok later ↔ (later.ordinal : Int) = d.ordinal + n := by
  rw [addDays, ← ofOrdinal?_eq_some_iff]
  cases ofOrdinal? (d.ordinal + n) <;> simp

theorem addDays_eq_ok {n : Nat} (h : d.ordinal + n ≤ lastOrdinal) :
    ∃ later, d.addDays n = .ok later ∧ later.ordinal = d.ordinal + n :=
  ⟨⟨d.ordinal + n, Nat.le_trans d.inRange.1 (Nat.le_add_right _ n), h⟩,
    addDays_eq_ok_iff.mpr (Int.natCast_add _ n), rfl⟩

theorem addDays_eq_error {n : Nat} (h : ¬ d.ordinal + n ≤ lastOrdinal) :
    d.addDays n = .error .outOfRange := by
  have hrange : ¬ (1 ≤ ((d.ordinal : Int) + n).toNat ∧
      ((d.ordinal : Int) + n).toNat ≤ lastOrdinal) := by
    omega
  rw [addDays, ofOrdinal?, dif_neg hrange]

/-- Days in a row from one on are those of its ordinal and the next ones. -/
theorem mapM_addDays_eq_ok_iff {n : Nat} {days : List Date} :
    ((List.range n).mapM fun (i : Nat) => d.addDays i) = .ok days ↔
      days.map (·.ordinal) = List.range' d.ordinal n := by
  have hday (i : Nat) (day : Date) :
      d.addDays (i : Nat) = .ok day ↔ d.ordinal + i = day.ordinal := by
    rw [addDays_eq_ok_iff, ← Int.natCast_add, Int.natCast_inj, eq_comm]
  rw [mapM_eq_ok_iff, List.range'_eq_map_range, eq_comm, ← List.forall₂_eq_eq_eq,
    List.forall₂_map_left_iff, List.forall₂_map_right_iff]
  simp only [hday]

/-- There are as many as the last year has left. -/
theorem exists_mapM_addDays {n : Nat} (h : d.ordinal + n ≤ lastOrdinal + 1) :
    ∃ days, ((List.range n).mapM fun (i : Nat) => d.addDays i) = .ok days := by
  refine exists_mapM fun i hi => ?_
  rw [List.mem_range] at hi
  obtain ⟨day, hday, -⟩ := addDays_eq_ok (d := d) (n := i) (by omega)
  exact ⟨day, hday⟩

/-- The days of a week that does not leave the last year. -/
theorem exists_sevenDays (h : d.ordinal + 6 ≤ lastOrdinal) :
    ∃ first others, d.sevenDays = .ok (first :: others) := by
  obtain ⟨days, hok⟩ := exists_mapM_addDays (n := 7) (Nat.succ_le_succ h)
  cases days with
  | nil => exact absurd (mapM_addDays_eq_ok_iff.mp hok) (by simp [List.range'_succ])
  | cons first others => exact ⟨first, others, hok⟩

theorem weekStart_le (d : Date) : d.weekStart.ordinal ≤ d.ordinal :=
  Nat.sub_le _ _

/-! ## Years -/

/-- The year of a day. -/
def year (d : Date) : Nat := d.civil.1

theorem year_eq (d : Date) :
    let inCycle := (d.ordinal - 1) % 146097
    let centuries := min (inCycle / 36524) 3
    let inCentury := inCycle - centuries * 36524
    d.year = (d.ordinal - 1) / 146097 * 400 + centuries * 100 + inCentury / 1461 * 4 +
      min (inCentury % 1461 / 365) 3 + 1 := rfl

/-- A year lies in the four centuries of its cycle. -/
theorem cycle_lt_year (d : Date) : (d.ordinal - 1) / 146097 * 400 < d.year := by
  have hyear := d.year_eq
  simp only at hyear
  omega

/-- A year lies in its century of the cycle. -/
theorem century_lt_year (d : Date) :
    (d.ordinal - 1) / 146097 * 400 + min ((d.ordinal - 1) % 146097 / 36524) 3 * 100 < d.year := by
  have hyear := d.year_eq
  simp only at hyear
  omega

/-- At least as many days as years have begun. -/
theorem year_le_ordinal (d : Date) : d.year ≤ d.ordinal := by
  have hyear := d.year_eq
  have hrange := d.inRange
  simp only at hyear
  omega

/-- No day of the years up to 9000 comes after the last one of year 9000. -/
theorem ordinal_le_of_year_le (h : d.year ≤ 9000) : d.ordinal ≤ daysBeforeYear 9001 := by
  have hdays : daysBeforeYear 9001 = 22 * 146097 + 2 * 36524 := by decide
  have hcycle := d.cycle_lt_year
  have hcentury := d.century_lt_year
  by_contra hlate
  rcases Nat.lt_or_ge ((d.ordinal - 1) / 146097) 23 with hlast | hbeyond
  · have hsame : (d.ordinal - 1) / 146097 = 22 := by omega
    omega
  · omega

end SalonBooking.Date
