import RecordSelection.Proofs.Timestamp.Readers

/-!
# Timestamps written and read

A written timestamp is read back as the same instant, cut to whole milliseconds, in every year
there is. In the years of four digits both readers take it; a year with a sign is left to the
relaxed one.
-/

set_option autoImplicit false

namespace RecordSelection.Timestamp

open RecordSelection.Number (Digits isDigit numeral padded leadingDigits)

/-- The instant cut to whole milliseconds. -/
def wholeMillis (t : Timestamp) : Timestamp where
  seconds := t.seconds
  nanos := t.nanos / 1000000 * 1000000
  representable := by
    obtain ⟨hfirst, hlast, hnanos, hleap⟩ := t.representable
    unfold secondNanos at *
    exact ⟨hfirst, hlast, by unfold secondNanos; omega, by unfold secondNanos; omega⟩

/-! ## Years -/

theorem anyWidth_padded (n : Nat) (after : List Char) :
    anyWidth (padded 4 n ++ '-' :: after) = some (n, '-' :: after) := by
  have hpos : 1 ≤ (padded 4 n).length := by
    have := Nat.length_toDigits_pos (b := 10) (n := n)
    rw [padded, List.length_append]
    omega
  unfold anyWidth
  rw [Number.leadingDigits_append 1 _ _ _ (Number.isDigit_padded 4 n) hpos
    (by rw [List.length_append]; omega)
    (.inr ((Text.stops_cons isDigit '-' after).mpr (by decide)))]
  simp [Number.numeral_padded]

theorem signedYear_yearText (year : Int) (after : List Char) :
    signedYear (yearText year ++ '-' :: after) = some (year, '-' :: after) := by
  unfold yearText
  split
  case isTrue h =>
    obtain ⟨n, rfl⟩ : ∃ n : Nat, year = n := ⟨year.toNat, by omega⟩
    have hfits : n < Nat.pow 10 4 := by
      change n < 10000
      omega
    have hread := signedYear_append (Digits.ofNat 4 n (by decide) hfits) ('-' :: after)
    rwa [Digits.value_ofNat] at hread
  case isFalse h =>
    by_cases hneg : year < 0
    · simp only [if_pos hneg, List.cons_append]
      unfold signedYear
      rw [trimStart_of_not_isBlank '-' _ (by decide)]
      simp only [anyWidth_padded, Option.bind_eq_bind, Option.bind_some]
      rw [show -((year.natAbs : Nat) : Int) = year by omega]
      rfl
    · simp only [if_neg hneg, List.cons_append]
      unfold signedYear
      rw [trimStart_of_not_isBlank '+' _ (by decide)]
      simp only [anyWidth_padded, Option.bind_eq_bind, Option.bind_some]
      rw [show ((year.natAbs : Nat) : Int) = year by omega]
      rfl

/-! ## The written text -/

structure Fields.Fits (f : Fields) : Prop where
  month : f.month < Nat.pow 10 2
  day : f.day < Nat.pow 10 2
  hour : f.hour < Nat.pow 10 2
  minute : f.minute < Nat.pow 10 2
  second : f.second < Nat.pow 10 2
  nanos : f.nanos < secondNanos

section

variable (t : Timestamp)

theorem fits_fields : t.fields.Fits where
  month := Nat.lt_of_le_of_lt (Date.valid_ofDays (t.seconds / secondsPerDay)).2.1 (by decide)
  day := by
    obtain ⟨-, -, -, hday⟩ := Date.valid_ofDays (t.seconds / secondsPerDay)
    apply Nat.lt_of_le_of_lt hday
    unfold daysInMonth
    split_ifs <;> decide
  hour := by
    change (t.seconds % secondsPerDay).toNat / 3600 < 100
    unfold secondsPerDay
    omega
  minute := Nat.lt_trans (Nat.mod_lt _ (by decide)) (by decide)
  second := by
    have hleap := t.nanos_div_le
    change (t.seconds % secondsPerDay).toNat % 60 + t.nanos / secondNanos < 100
    omega
  nanos := Nat.mod_lt _ (by decide)

def clock : Clock where
  month := .ofNat 2 t.fields.month (by decide) t.fits_fields.month
  day := .ofNat 2 t.fields.day (by decide) t.fits_fields.day
  separator := ' '
  hour := .ofNat 2 t.fields.hour (by decide) t.fits_fields.hour
  minute := .ofNat 2 t.fields.minute (by decide) t.fits_fields.minute
  second := .ofNat 2 t.fields.second (by decide) t.fits_fields.second
  fraction := padded 3 (t.fields.nanos / 1000000)
  separates := .inr (.inr rfl)
  fractional := Number.isDigit_padded 3 _

theorem length_millis : (padded 3 (t.fields.nanos / 1000000)).length = 3 := by
  apply Number.length_padded 3 _ (by decide)
  have hnanos := t.fits_fields.nanos
  unfold secondNanos at hnanos
  change t.fields.nanos / 1000000 < 1000
  omega

theorem toList_format : t.format.toList = yearText t.fields.year ++ t.clock.text ++ ['Z'] := by
  have hfraction : fractionText (padded 3 (t.fields.nanos / 1000000)) =
      '.' :: padded 3 (t.fields.nanos / 1000000) := by
    have hlength := t.length_millis
    generalize padded 3 (t.fields.nanos / 1000000) = millis at *
    cases millis with
    | nil => exact absurd hlength (by decide)
    | cons => rfl
  simp [format, Clock.text, Clock.timeText, clock, hfraction, Digits.ofNat]

theorem fields_clock :
    t.clock.fields t.fields.year =
      { t.fields with nanos := t.fields.nanos / 1000000 * 1000000 } := by
  have hnanos : fractionNanos t.clock.fraction = t.fields.nanos / 1000000 * 1000000 := by
    have hlength := t.length_millis
    change fractionNanos (padded 3 (t.fields.nanos / 1000000)) = _
    rw [fractionNanos, List.take_of_length_le (by omega), hlength, Number.numeral_padded]
  simp only [Clock.fields, hnanos]
  simp only [clock, Digits.value_ofNat]

theorem readRelaxed?_format : readRelaxed? (withoutZ t.format.toList) = some t.wholeMillis := by
  have hread := relaxedFields_append (yearText t.fields.year) t.fields.year t.clock []
    (signedYear_yearText t.fields.year) numberEnd_nil
  rw [toList_format, withoutZ_append, readRelaxed?]
  rw [List.append_nil, if_pos (show t.clock.separator = ' ' from rfl)] at hread
  rw [hread]
  simp only [Option.bind_eq_bind, Option.bind_some, List.isEmpty_nil, if_true]
  rw [fields_clock, ofFields?_fields]
  apply ofUnix?_eq t.wholeMillis
  change t.nanos / secondNanos * secondNanos + t.nanos % secondNanos / 1000000 * 1000000 =
    t.nanos / 1000000 * 1000000
  unfold secondNanos
  omega

theorem parse?_format : parse? t.format = some t.wholeMillis :=
  parse?_of_relaxed _ _ t.readRelaxed?_format

theorem isLeap_wholeMillis : secondNanos ≤ t.wholeMillis.nanos ↔ secondNanos ≤ t.nanos := by
  unfold wholeMillis secondNanos
  simp only
  omega

theorem format_wholeMillis : t.wholeMillis.format = t.format := by
  have hwhole : t.wholeMillis.nanos / secondNanos = t.nanos / secondNanos := by
    unfold wholeMillis secondNanos
    simp only
    omega
  have hmillis : t.wholeMillis.nanos % secondNanos / 1000000 = t.nanos % secondNanos / 1000000 := by
    unfold wholeMillis secondNanos
    simp only
    omega
  simp only [format, fields, hwhole, hmillis]
  rfl

end

/-- A written timestamp is read back cut to whole milliseconds, and a leap second as a leap second.
So it is written again as the same text, and what was read from any text is left unchanged by
writing and reading it, but for the cut. -/
theorem timestamps_survive_writing :
    (∀ t : Timestamp, parse? t.format = some t.wholeMillis ∧
      (secondNanos ≤ t.wholeMillis.nanos ↔ secondNanos ≤ t.nanos)) ∧
    (∀ t : Timestamp, (parse? t.format).map format = some t.format) ∧
    ∀ s : String, ((parse? s).bind fun t => parse? t.format) = (parse? s).map wholeMillis := by
  refine ⟨fun t => ⟨t.parse?_format, t.isLeap_wholeMillis⟩, fun t => ?_, fun s => ?_⟩
  · rw [t.parse?_format, Option.map_some, t.format_wholeMillis]
  · cases parse? s with
    | none => rfl
    | some t => rw [Option.bind_some, Option.map_some, t.parse?_format]

example : (Timestamp.mk firstSecond 999999999 (by decide +kernel)).format =
    "-262143-01-01 00:00:00.999Z" := by
  decide +kernel

end RecordSelection.Timestamp
