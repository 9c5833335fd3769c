import Mathlib.Tactic.IntervalCases
import Mathlib.Tactic.SplitIfs
import RecordSelection.Timestamp.Calendar

/-!
# Dates and days

Counting the days up to a date and naming the date of a day undo each other, over all years. Both
go through the year counted from March, in which a leap day comes last.
-/

set_option autoImplicit false

namespace RecordSelection.Timestamp

/-! ## Years counted from March -/

theorem isLeapYear_iff (year : Int) :
    isLeapYear year = true ↔ year % 4 = 0 ∧ (year % 100 ≠ 0 ∨ year % 400 = 0) := by
  simp [isLeapYear]

def yearStart (year : Int) : Int := 365 * year + year / 4 - year / 100 + year / 400

theorem yearStart_succ (year : Int) :
    yearStart (year + 1) = yearStart year + if isLeapYear (year + 1) then 366 else 365 := by
  unfold yearStart
  split_ifs with leap <;> rw [isLeapYear_iff] at leap <;> omega

theorem yearStart_mono {year later : Int} (h : year ≤ later) :
    yearStart year ≤ yearStart later := by
  unfold yearStart
  omega

/-- A year counted from March has the day; the year's February is that of the year after. -/
def InYear (year ofYear : Int) : Prop :=
  0 ≤ ofYear ∧ ofYear ≤ 365 ∧ (ofYear = 365 → isLeapYear (year + 1) = true)

theorem lt_yearStart {year later ofYear : Int} (h : InYear year ofYear) (hlater : year < later) :
    yearStart year + ofYear < yearStart later := by
  obtain ⟨first, last, leap⟩ := h
  have hnext := yearStart_succ year
  have hle : yearStart (year + 1) ≤ yearStart later := yearStart_mono hlater
  by_cases hleap : isLeapYear (year + 1) = true
  · rw [if_pos hleap] at hnext
    omega
  · rw [if_neg hleap] at hnext
    have : ofYear ≠ 365 := fun h => hleap (leap h)
    omega

theorem inYear_unique {year ofYear year' ofYear' : Int} (h : InYear year ofYear)
    (h' : InYear year' ofYear') (sum : yearStart year + ofYear = yearStart year' + ofYear') :
    year = year' ∧ ofYear = ofYear' := by
  have hfirst := h.1
  have hfirst' := h'.1
  have hyear : year = year' := by
    rcases Int.lt_trichotomy year year' with hlt | heq | hgt
    · have := lt_yearStart h hlt
      omega
    · exact heq
    · have := lt_yearStart h' hgt
      omega
  subst hyear
  exact ⟨rfl, by omega⟩

/-! ## Days of a repetition of the calendar -/

/-- A day of a cycle by its century, the four years in that, the year of these and the day of the
year. The last day of the four years is left out at the end of a century, but for the last one. -/
structure Splits (day century four year ofYear : Int) : Prop where
  sum : day = century * 36524 + four * 1461 + year * 365 + ofYear
  century_nonneg : 0 ≤ century
  century_le : century ≤ 3
  four_nonneg : 0 ≤ four
  four_le : four ≤ 24
  year_nonneg : 0 ≤ year
  year_le : year ≤ 3
  ofYear_nonneg : 0 ≤ ofYear
  ofYear_le : ofYear ≤ 365
  leap : ofYear = 365 → year = 3 ∧ (four = 24 → century = 3)

theorem exists_splits (day : Int) (first : 0 ≤ day) (last : day < daysPerCycle) :
    ∃ century four year ofYear, Splits day century four year ofYear := by
  unfold daysPerCycle at last
  obtain ⟨century, hcentury⟩ : ∃ c, c = min (day / 36524) 3 := ⟨_, rfl⟩
  obtain ⟨four, hfour⟩ : ∃ f, f = (day - century * 36524) / 1461 := ⟨_, rfl⟩
  obtain ⟨year, hyear⟩ : ∃ y, y = min ((day - century * 36524 - four * 1461) / 365) 3 :=
    ⟨_, rfl⟩
  refine ⟨century, four, year, day - century * 36524 - four * 1461 - year * 365, ?_⟩
  constructor <;> omega

namespace Splits

variable {day century four year ofYear : Int} (h : Splits day century four year ofYear)

include h

theorem century_eq : day / 36524 - day / 146096 = century := by
  obtain ⟨rest, hrest⟩ : ∃ r, r = four * 1461 + year * 365 + ofYear := ⟨_, rfl⟩
  obtain ⟨sum, h1, h2, h3, h4, h5, h6, h7, h8, leap⟩ := h
  have hday : day = century * 36524 + rest := by omega
  have hle : 0 ≤ rest ∧ rest ≤ 36524 ∧ (rest = 36524 → century = 3) := by omega
  clear sum h3 h4 h5 h6 h7 h8 leap hrest
  -- only the last day of the cycle goes beyond the days of a century
  by_cases hlast : day = 146096
  · omega
  · have : day / 146096 = 0 := by omega
    omega

theorem yearOfCycle_eq :
    (day - day / 1460 + day / 36524 - day / 146096) / 365 = century * 100 + four * 4 + year := by
  have hcentury := h.century_eq
  obtain ⟨extra, hextra⟩ : ∃ e, e = century * 24 + four + year * 365 + ofYear := ⟨_, rfl⟩
  obtain ⟨sum, h1, h2, h3, h4, h5, h6, h7, h8, leap⟩ := h
  -- every 1460 days have a leap day before them, which is taken away
  have hday : day = (century * 25 + four) * 1460 + extra := by omega
  have hquotient : day / 1460 = century * 25 + four + extra / 1460 := by omega
  have hofYear : 0 ≤ ofYear - extra / 1460 ∧ ofYear - extra / 1460 < 365 := by omega
  omega

theorem yearStart_add (cycle : Int) :
    yearStart (century * 100 + four * 4 + year + cycle * 400) + ofYear =
      cycle * daysPerCycle + day := by
  obtain ⟨sum, h1, h2, h3, h4, h5, h6, h7, h8, leap⟩ := h
  unfold yearStart daysPerCycle
  omega

theorem ofYear_eq : day - (365 * (century * 100 + four * 4 + year)
    + (century * 100 + four * 4 + year) / 4 - (century * 100 + four * 4 + year) / 100) =
      ofYear := by
  obtain ⟨sum, h1, h2, h3, h4, h5, h6, h7, h8, leap⟩ := h
  omega

theorem inYear (cycle : Int) :
    InYear (century * 100 + four * 4 + year + cycle * 400) ofYear := by
  refine ⟨h.ofYear_nonneg, h.ofYear_le, fun hofYear => ?_⟩
  obtain ⟨hyear, hcentury⟩ := h.leap hofYear
  obtain ⟨sum, h1, h2, h3, h4, h5, h6, h7, h8, leap⟩ := h
  rw [isLeapYear_iff]
  omega

end Splits

/-! ## Months counted from March -/

theorem marchMonth_spec (ofYear : Int) (first : 0 ≤ ofYear) (last : ofYear ≤ 365) :
    0 ≤ (5 * ofYear + 2) / 153 ∧ (5 * ofYear + 2) / 153 ≤ 11 ∧
      daysBefore ((5 * ofYear + 2) / 153) ≤ ofYear ∧
      ofYear < daysBefore ((5 * ofYear + 2) / 153 + 1) := by
  unfold daysBefore
  omega

theorem marchMonth_unique (month ofYear : Int) (first : daysBefore month ≤ ofYear)
    (last : ofYear < daysBefore (month + 1)) : (5 * ofYear + 2) / 153 = month := by
  unfold daysBefore at *
  omega

namespace Date

def marchYear (d : Date) : Int := if d.month ≤ 2 then d.year - 1 else d.year

def marchMonth (d : Date) : Int := (d.month + 9 : Int) % 12

def ofYear (d : Date) : Int := daysBefore d.marchMonth + d.day - 1

def ofMarch (year ofYear : Int) : Date :=
  let marchMonth := (5 * ofYear + 2) / 153
  let day := (ofYear - daysBefore marchMonth + 1).toNat
  let month := if marchMonth < 10 then (marchMonth + 3).toNat else (marchMonth - 9).toNat
  ⟨if month ≤ 2 then year + 1 else year, month, day⟩

theorem marchYear_ofMarch (year ofYear : Int) (h : InYear year ofYear) :
    (ofMarch year ofYear).marchYear = year := by
  obtain ⟨hfirst, hlast, -, -⟩ := marchMonth_spec ofYear h.1 h.2.1
  unfold marchYear ofMarch
  simp only
  split_ifs <;> omega

theorem ofYear_ofMarch (year ofYear : Int) (h : InYear year ofYear) :
    (ofMarch year ofYear).ofYear = ofYear := by
  obtain ⟨hfirst, hlast, hle, -⟩ := marchMonth_spec ofYear h.1 h.2.1
  have hmonth : (ofMarch year ofYear).marchMonth = (5 * ofYear + 2) / 153 := by
    unfold marchMonth ofMarch
    simp only
    split_ifs <;> omega
  rw [Date.ofYear, hmonth]
  simp only [ofMarch]
  omega

theorem valid_ofMarch (year ofYear : Int) (h : InYear year ofYear) :
    (ofMarch year ofYear).Valid := by
  obtain ⟨first, last, leap⟩ := h
  obtain ⟨hfirst, hlast, hle, hlt⟩ := marchMonth_spec ofYear first last
  unfold ofMarch Valid daysInMonth
  generalize (5 * ofYear + 2) / 153 = month at *
  unfold daysBefore at *
  by_cases february : month = 11
  · subst february
    by_cases hleap : isLeapYear (year + 1) = true
    · simp [hleap]
      omega
    · have : ofYear ≠ 365 := fun h => hleap (leap h)
      simp [hleap]
      omega
  · simp only
    split_ifs <;> omega

theorem marchMonth_eq (d : Date) (h : d.Valid) :
    d.marchMonth = if d.month ≤ 2 then (d.month + 9 : Int) else d.month - 3 := by
  obtain ⟨hfirst, hlast, -, -⟩ := h
  unfold marchMonth
  split_ifs <;> omega

theorem daysInMonth_le (year : Int) (month : Nat) (first : 1 ≤ month) (last : month ≤ 12) :
    (daysInMonth year month : Int) ≤
      daysBefore ((month + 9 : Int) % 12 + 1) - daysBefore ((month + 9 : Int) % 12) := by
  unfold daysInMonth
  generalize isLeapYear year = leap
  interval_cases month <;> revert leap <;> decide

theorem ofYear_lt (d : Date) (h : d.Valid) : d.ofYear < daysBefore (d.marchMonth + 1) := by
  obtain ⟨hfirst, hlast, hday, hdays⟩ := h
  have hlength := daysInMonth_le d.year d.month hfirst hlast
  unfold ofYear marchMonth
  omega

theorem inYear_of_valid (d : Date) (h : d.Valid) : InYear d.marchYear d.ofYear := by
  have hlt := ofYear_lt d h
  have hmonth := marchMonth_eq d h
  obtain ⟨hfirst, hlast, hday, hdays⟩ := h
  by_cases february : d.month = 2
  · have hofYear : d.ofYear = 336 + d.day := by
      simp [ofYear, hmonth, february, daysBefore]
      omega
    have hyear : d.marchYear + 1 = d.year := by simp [marchYear, february]
    rw [february] at hdays
    unfold InYear
    rw [hyear, hofYear]
    by_cases hleap : isLeapYear d.year = true
    · simp only [daysInMonth, hleap, if_true] at hdays
      exact ⟨by omega, by omega, fun _ => hleap⟩
    · simp only [daysInMonth, hleap, if_true, Bool.false_eq_true, if_false] at hdays
      exact ⟨by omega, by omega, fun _ => by omega⟩
  · -- every other month ends before the first of February, the day 337
    have hlast : d.ofYear < 337 := by
      unfold daysBefore at hlt
      split_ifs at hmonth <;> omega
    have hfirst : 0 ≤ d.ofYear := by
      unfold ofYear daysBefore
      split_ifs at hmonth <;> omega
    exact ⟨hfirst, by omega, fun _ => by omega⟩

theorem ofMarch_of_valid (d : Date) (h : d.Valid) : ofMarch d.marchYear d.ofYear = d := by
  have hmonth : (5 * d.ofYear + 2) / 153 = d.marchMonth := by
    apply marchMonth_unique _ _ _ (ofYear_lt d h)
    have hday := h.2.2.1
    unfold ofYear
    omega
  have heq := marchMonth_eq d h
  obtain ⟨hfirst, hlast, hday, -⟩ := h
  unfold ofMarch
  rw [hmonth, ofYear, marchYear]
  obtain ⟨year, month, day⟩ := d
  simp only at *
  split_ifs at * <;> simp <;> omega

/-! ## Counting days -/

theorem toDays_eq (d : Date) : d.toDays = yearStart d.marchYear + d.ofYear - epochOffset := by
  change d.marchYear / 400 * daysPerCycle + d.marchYear % 400 * 365 + d.marchYear % 400 / 4
    - d.marchYear % 400 / 100 + d.ofYear - epochOffset = _
  unfold yearStart daysPerCycle
  omega

theorem ofDays_eq_ofMarch (days : Int) :
    ∃ year ofYear, InYear year ofYear ∧ days + epochOffset = yearStart year + ofYear ∧
      ofDays days = ofMarch year ofYear := by
  obtain ⟨cycle, hcycle⟩ : ∃ c, c = (days + epochOffset) / daysPerCycle := ⟨_, rfl⟩
  obtain ⟨day, hday⟩ : ∃ d, d = (days + epochOffset) % daysPerCycle := ⟨_, rfl⟩
  have hsum : cycle * daysPerCycle + day = days + epochOffset := by
    rw [hcycle, hday]
    exact Int.ediv_mul_add_emod _ _
  have hfirst : 0 ≤ day := hday ▸ Int.emod_nonneg _ (by decide)
  have hlast : day < daysPerCycle := hday ▸ Int.emod_lt_of_pos _ (by decide)
  obtain ⟨century, four, year, ofYear, h⟩ := exists_splits day hfirst hlast
  refine ⟨century * 100 + four * 4 + year + cycle * 400, ofYear, h.inYear cycle, ?_, ?_⟩
  · rw [h.yearStart_add, hsum]
  · unfold ofDays
    simp only [← hcycle, ← hday, h.yearOfCycle_eq, h.ofYear_eq]
    rfl

theorem valid_ofDays (days : Int) : (ofDays days).Valid := by
  obtain ⟨year, ofYear, hin, -, heq⟩ := ofDays_eq_ofMarch days
  exact heq ▸ valid_ofMarch year ofYear hin

theorem toDays_ofDays (days : Int) : (ofDays days).toDays = days := by
  obtain ⟨year, ofYear, hin, hsum, heq⟩ := ofDays_eq_ofMarch days
  rw [heq, toDays_eq, marchYear_ofMarch year ofYear hin, ofYear_ofMarch year ofYear hin]
  omega

theorem ofDays_toDays (d : Date) (h : d.Valid) : ofDays d.toDays = d := by
  obtain ⟨year, ofYear, hin, hsum, heq⟩ := ofDays_eq_ofMarch d.toDays
  have hdays := toDays_eq d
  obtain ⟨rfl, rfl⟩ := inYear_unique (inYear_of_valid d h) hin (by omega)
  rw [heq, ofMarch_of_valid d h]

theorem toDays_lt_of_year_lt (d later : Date) (hd : d.Valid) (hlater : later.Valid)
    (h : d.year < later.year) : d.toDays < later.toDays := by
  have hin := inYear_of_valid d hd
  have hin' := inYear_of_valid later hlater
  rw [toDays_eq, toDays_eq]
  by_cases hyear : d.marchYear < later.marchYear
  · have := lt_yearStart hin hyear
    have := hin'.1
    omega
  · -- in one year counted from March, the one date stands before January and the other after
    obtain ⟨hmonth, hmonth'⟩ : ¬ d.month ≤ 2 ∧ later.month ≤ 2 := by
      unfold marchYear at hyear
      split_ifs at hyear <;> omega
    have hsame : d.marchYear = later.marchYear := by
      rw [marchYear, marchYear, if_neg hmonth, if_pos hmonth'] at *
      omega
    have hend : d.ofYear < 306 := by
      have hlt := ofYear_lt d hd
      have hlast := hd.2.1
      rw [marchMonth_eq d hd, if_neg hmonth] at hlt
      unfold daysBefore at hlt
      omega
    have hstart : 306 ≤ later.ofYear := by
      have hfirst := hlater.1
      have hday := hlater.2.2.1
      unfold ofYear daysBefore
      rw [marchMonth_eq later hlater, if_pos hmonth']
      omega
    rw [hsame]
    omega

end Date

end RecordSelection.Timestamp
