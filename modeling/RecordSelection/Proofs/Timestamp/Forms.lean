import RecordSelection.Proofs.Number.Digits
import RecordSelection.Timestamp.Relaxed

/-!
# Texts of the strict form

A text of the strict form is a date, a letter between, a time and perhaps a fraction, every part
of its full width. The strict reader takes these texts and no others. The relaxed reader takes
those with a blank between date and time, and finds the same parts in them; a text with a letter
there it refuses.
-/

set_option autoImplicit false

namespace RecordSelection.Timestamp

open RecordSelection.Number (Digits isDigit numeral leadingDigits)
open RecordSelection.Text (Stops isBlank trimStart)

/-! ## Single steps -/

theorem isBlank_of_isDigit (c : Char) (h : isDigit c = true) : isBlank c = false := by
  have hc : 48 ≤ c.toNat ∧ c.toNat ≤ 57 := by
    simp only [isDigit, Bool.and_eq_true, decide_eq_true_eq, Char.le_def] at h
    exact h
  unfold isBlank
  simp
  omega

theorem trimStart_of_isBlank (c : Char) (s : List Char) (h : isBlank c = true) :
    trimStart (c :: s) = trimStart s := by
  simp [trimStart, h]

theorem trimStart_of_not_isBlank (c : Char) (s : List Char) (h : isBlank c = false) :
    trimStart (c :: s) = c :: s := by
  simp [trimStart, h]

section

variable {width : Nat} (d : Digits width)

theorem wide_append (rest : List Char) : wide width (d.chars ++ rest) = some (d.value, rest) := by
  unfold wide
  rw [Number.leadingDigits_append width width d.chars rest d.digits
    (Nat.le_of_eq d.length_eq.symm) (Nat.le_of_eq d.length_eq) (.inl d.length_eq)]
  rfl

theorem trimStart_append (hwidth : 0 < width) (rest : List Char) :
    trimStart (d.chars ++ rest) = d.chars ++ rest := by
  obtain ⟨chars, hlength, hdigits⟩ := d
  cases chars with
  | nil => exact absurd hlength (by simp; omega)
  | cons c chars =>
    exact trimStart_of_not_isBlank c _ (isBlank_of_isDigit c (hdigits c (by simp)))

theorem narrow_append (hwidth : 0 < width) (rest : List Char) :
    narrow width (d.chars ++ rest) = some (d.value, rest) := by
  unfold narrow
  rw [trimStart_append d hwidth, Number.leadingDigits_append 1 width d.chars rest d.digits
    (by rw [d.length_eq]; exact hwidth) (Nat.le_of_eq d.length_eq) (.inl d.length_eq)]
  rfl

end

theorem wide_eq_some (width n : Nat) (s rest : List Char) (h : wide width s = some (n, rest)) :
    ∃ d : Digits width, s = d.chars ++ rest ∧ n = d.value := by
  obtain ⟨⟨digits, after⟩, hdigits, h⟩ := Option.bind_eq_some_iff.mp h
  obtain ⟨rfl, rfl⟩ := Prod.mk.inj (Option.some.inj h)
  obtain ⟨hs, hall, hleast, hmost, -⟩ := Number.leadingDigits_eq_some _ _ _ _ _ hdigits
  exact ⟨⟨digits, Nat.le_antisymm hmost hleast, hall⟩, hs, rfl⟩

theorem letter_cons (c : Char) (rest : List Char) : letter c (c :: rest) = some ((), rest) := by
  simp [letter]

theorem letter_eq_some (c : Char) (u : Unit) (s rest : List Char)
    (h : letter c s = some (u, rest)) : s = c :: rest := by
  cases s with
  | nil => exact absurd h nofun
  | cons d s =>
    by_cases hd : d = c
    · rw [hd, letter_cons] at h
      rw [hd, (Prod.mk.inj (Option.some.inj h)).2]
    · simp [letter, hd] at h

theorem narrow_blank (width : Nat) (c : Char) (s : List Char) (h : isBlank c = true) :
    narrow width (c :: s) = narrow width s := by
  simp only [narrow, trimStart_of_isBlank c s h]

theorem narrow_eq_none (width : Nat) (c : Char) (s : List Char) (hblank : isBlank c = false)
    (hdigit : isDigit c = false) : narrow width (c :: s) = none := by
  unfold narrow
  rw [trimStart_of_not_isBlank c s hblank]
  cases width with
  | zero => rfl
  | succ width => simp [leadingDigits, hdigit]

/-! ## Fractions -/

def fractionText : List Char → List Char
  | [] => []
  | digits => '.' :: digits

def fractionNanos (digits : List Char) : Nat :=
  numeral (digits.take 9) * Nat.pow 10 (9 - (digits.take 9).length)

def NumberEnd (s : List Char) : Prop := Stops isDigit s ∧ s.head? ≠ some '.'

theorem numberEnd_nil : NumberEnd [] := ⟨Text.stops_nil isDigit, nofun⟩

theorem numberEnd_cons (c : Char) (s : List Char) (hdigit : isDigit c = false) (hpoint : c ≠ '.') :
    NumberEnd (c :: s) :=
  ⟨(Text.stops_cons isDigit c s).mpr hdigit, by simpa using hpoint⟩

theorem fraction_of_not_point (s : List Char) (h : s.head? ≠ some '.') :
    fraction s = some (0, s) := by
  unfold fraction
  split
  · simp at h
  · rfl

theorem fraction_append (digits rest : List Char) (hdigits : ∀ c ∈ digits, isDigit c = true)
    (hrest : NumberEnd rest) :
    fraction (fractionText digits ++ rest) = some (fractionNanos digits, rest) := by
  cases digits with
  | nil => exact fraction_of_not_point rest hrest.2
  | cons d ds =>
    generalize hall : d :: ds = digits at *
    have htext : fractionText digits = '.' :: digits := by rw [← hall]; rfl
    have hsplit : digits ++ rest = digits.take 9 ++ (digits.drop 9 ++ rest) := by
      rw [← List.append_assoc, List.take_append_drop]
    have hfirst : leadingDigits 1 9 (digits ++ rest) =
        some (digits.take 9, digits.drop 9 ++ rest) := by
      rw [hsplit]
      apply Number.leadingDigits_append 1 9
      · exact fun c hc => hdigits c (List.mem_of_mem_take hc)
      · rw [← hall]
        simp
      · exact List.length_take_le 9 digits
      · rw [List.length_take]
        by_cases hlong : 9 ≤ digits.length
        · exact .inl (by omega)
        · rw [List.drop_eq_nil_of_le (by omega)]
          exact .inr hrest.1
    have hdrop : (digits.drop 9 ++ rest).dropWhile isDigit = rest :=
      Text.dropWhile_run isDigit _ rest (fun c hc => hdigits c (List.mem_of_mem_drop hc)) hrest.1
    rw [htext]
    change nanoseconds (digits ++ rest) = _
    rw [nanoseconds, hfirst]
    simp [hdrop, fractionNanos]

theorem fraction_eq_some (n : Nat) (s rest : List Char) (h : fraction s = some (n, rest)) :
    ∃ digits, (∀ c ∈ digits, isDigit c = true) ∧ s = fractionText digits ++ rest ∧
      n = fractionNanos digits := by
  unfold fraction at h
  split at h
  case h_2 =>
    obtain ⟨rfl, rfl⟩ := Prod.mk.inj (Option.some.inj h)
    exact ⟨[], nofun, rfl, rfl⟩
  case h_1 after =>
    obtain ⟨⟨digits, more⟩, hdigits, h⟩ := Option.bind_eq_some_iff.mp h
    obtain ⟨rfl, rfl⟩ := Prod.mk.inj (Option.some.inj h)
    obtain ⟨hs, hall, hleast, hmost, hend⟩ := Number.leadingDigits_eq_some _ _ _ _ _ hdigits
    have hmore : ∀ c ∈ more.takeWhile isDigit, isDigit c = true :=
      fun c hc => List.all_eq_true.mp List.all_takeWhile c hc
    have htake : (digits ++ more.takeWhile isDigit).take 9 = digits := by
      rcases hend with hnine | hend
      · rw [← hnine, List.take_left]
      · have hnil : more.takeWhile isDigit = [] := by
          simpa using Text.takeWhile_run isDigit [] more nofun hend
        rw [hnil, List.append_nil, List.take_of_length_le hmost]
    refine ⟨digits ++ more.takeWhile isDigit, ?_, ?_, ?_⟩
    · intro c hc
      rcases List.mem_append.mp hc with hc | hc
      · exact hall c hc
      · exact hmore c hc
    · rw [hs]
      cases digits with
      | nil => exact absurd hleast (by simp)
      | cons d digits => simp [fractionText]
    · rw [fractionNanos, htake]

/-! ## Whole texts -/

/-- What follows the year in a text of the strict form. The fraction has no digits where the text
has none. -/
structure Clock where
  month : Digits 2
  day : Digits 2
  separator : Char
  hour : Digits 2
  minute : Digits 2
  second : Digits 2
  fraction : List Char
  separates : separator = 'T' ∨ separator = 't' ∨ separator = ' '
  fractional : ∀ c ∈ fraction, isDigit c = true

namespace Clock

def timeText (c : Clock) : List Char :=
  c.hour.chars ++ ':' :: (c.minute.chars ++ ':' :: (c.second.chars ++ fractionText c.fraction))

def text (c : Clock) : List Char :=
  '-' :: (c.month.chars ++ '-' :: (c.day.chars ++ c.separator :: c.timeText))

def fields (c : Clock) (year : Int) : Fields :=
  { year, month := c.month.value, day := c.day.value, hour := c.hour.value
    minute := c.minute.value, second := c.second.value, nanos := fractionNanos c.fraction }

end Clock

structure StrictTime extends Clock where
  year : Digits 4

namespace StrictTime

def text (d : StrictTime) : List Char := d.year.chars ++ d.toClock.text

def fields (d : StrictTime) : Fields := d.toClock.fields d.year.value

end StrictTime

theorem separator_cons (c : Char) (rest : List Char) (h : c = 'T' ∨ c = 't' ∨ c = ' ') :
    separator (c :: rest) = some ((), rest) := by
  simp [separator, h, or_assoc]

theorem separator_eq_some (u : Unit) (s rest : List Char) (h : separator s = some (u, rest)) :
    ∃ c, (c = 'T' ∨ c = 't' ∨ c = ' ') ∧ s = c :: rest := by
  cases s with
  | nil => exact absurd h nofun
  | cons c s =>
    by_cases hc : c = 'T' ∨ c = 't' ∨ c = ' '
    · rw [separator_cons c s hc] at h
      exact ⟨c, hc, by rw [(Prod.mk.inj (Option.some.inj h)).2]⟩
    · simp [separator, ← or_assoc] at hc h
      simp [hc] at h

theorem strictFields_append (d : StrictTime) (rest : List Char) (hrest : NumberEnd rest) :
    strictFields (d.text ++ rest) = some (d.fields, rest) := by
  simp only [strictFields, StrictTime.text, Clock.text, Clock.timeText, List.append_assoc,
    List.cons_append, wide_append, letter_cons, separator_cons _ _ d.separates,
    fraction_append _ rest d.fractional hrest, Option.bind_eq_bind, Option.bind_some]
  rfl

theorem strictFields_eq_some (s rest : List Char) (f : Fields)
    (h : strictFields s = some (f, rest)) :
    ∃ d : StrictTime, s = d.text ++ rest ∧ f = d.fields := by
  unfold strictFields at h
  obtain ⟨⟨_, _⟩, hyear, h⟩ := Option.bind_eq_some_iff.mp h
  obtain ⟨⟨_, _⟩, hdash, h⟩ := Option.bind_eq_some_iff.mp h
  obtain ⟨⟨_, _⟩, hmonth, h⟩ := Option.bind_eq_some_iff.mp h
  obtain ⟨⟨_, _⟩, hdash', h⟩ := Option.bind_eq_some_iff.mp h
  obtain ⟨⟨_, _⟩, hday, h⟩ := Option.bind_eq_some_iff.mp h
  obtain ⟨⟨_, _⟩, hseparator, h⟩ := Option.bind_eq_some_iff.mp h
  obtain ⟨⟨_, _⟩, hhour, h⟩ := Option.bind_eq_some_iff.mp h
  obtain ⟨⟨_, _⟩, hcolon, h⟩ := Option.bind_eq_some_iff.mp h
  obtain ⟨⟨_, _⟩, hminute, h⟩ := Option.bind_eq_some_iff.mp h
  obtain ⟨⟨_, _⟩, hcolon', h⟩ := Option.bind_eq_some_iff.mp h
  obtain ⟨⟨_, _⟩, hsecond, h⟩ := Option.bind_eq_some_iff.mp h
  obtain ⟨⟨_, _⟩, hfraction, h⟩ := Option.bind_eq_some_iff.mp h
  obtain ⟨rfl, rfl⟩ := Prod.mk.inj (Option.some.inj h)
  obtain ⟨year, rfl, rfl⟩ := wide_eq_some _ _ _ _ hyear
  obtain rfl := letter_eq_some _ _ _ _ hdash
  obtain ⟨month, rfl, rfl⟩ := wide_eq_some _ _ _ _ hmonth
  obtain rfl := letter_eq_some _ _ _ _ hdash'
  obtain ⟨day, rfl, rfl⟩ := wide_eq_some _ _ _ _ hday
  obtain ⟨separator, separates, rfl⟩ := separator_eq_some _ _ _ hseparator
  obtain ⟨hour, rfl, rfl⟩ := wide_eq_some _ _ _ _ hhour
  obtain rfl := letter_eq_some _ _ _ _ hcolon
  obtain ⟨minute, rfl, rfl⟩ := wide_eq_some _ _ _ _ hminute
  obtain rfl := letter_eq_some _ _ _ _ hcolon'
  obtain ⟨second, rfl, rfl⟩ := wide_eq_some _ _ _ _ hsecond
  obtain ⟨fraction, fractional, rfl, rfl⟩ := fraction_eq_some _ _ _ hfraction
  refine ⟨⟨⟨month, day, separator, hour, minute, second, fraction, separates, fractional⟩, year⟩,
    ?_, rfl⟩
  simp [StrictTime.text, Clock.text, Clock.timeText]

theorem relaxedFields_append (written : List Char) (year : Int) (c : Clock) (rest : List Char)
    (hyear : ∀ after, signedYear (written ++ '-' :: after) = some (year, '-' :: after))
    (hrest : NumberEnd rest) :
    relaxedFields (written ++ c.text ++ rest) =
      if c.separator = ' ' then some (c.fields year, rest) else none := by
  have htime : ∀ after, narrow 2 (c.separator :: (c.hour.chars ++ after)) =
      if c.separator = ' ' then some (c.hour.value, after) else none := by
    intro after
    rcases c.separates with h | h | h
    · rw [h, if_neg (by decide)]
      exact narrow_eq_none 2 'T' _ (by decide) (by decide)
    · rw [h, if_neg (by decide)]
      exact narrow_eq_none 2 't' _ (by decide) (by decide)
    · rw [h, if_pos rfl, narrow_blank 2 ' ' _ (by decide)]
      exact narrow_append c.hour (by decide) after
  have hpart : ∀ (d : Digits 2) (after : List Char),
      narrow 2 (d.chars ++ after) = some (d.value, after) :=
    fun d after => narrow_append d (by decide) after
  simp only [relaxedFields, Clock.text, Clock.timeText, List.append_assoc, List.cons_append,
    hyear, letter_cons, hpart, htime, Option.bind_eq_bind, Option.bind_some]
  by_cases hblank : c.separator = ' '
  · simp only [hblank, if_true, Option.bind_some, letter_cons, hpart,
      fraction_append _ rest c.fractional hrest]
    rfl
  · simp [hblank]

theorem signedYear_append (year : Digits 4) (after : List Char) :
    signedYear (year.chars ++ after) = some ((year.value : Int), after) := by
  have hread := narrow_append year (by decide) after
  have htrim := trimStart_append year (by decide) after
  obtain ⟨chars, hlength, hdigits⟩ := year
  cases chars with
  | nil => exact absurd hlength (by simp)
  | cons c chars =>
    have hc := hdigits c (by simp)
    unfold signedYear
    rw [htrim]
    split
    case h_1 heq => simp_all [isDigit]
    case h_2 heq => simp_all [isDigit]
    case h_3 => rw [hread]; rfl

end RecordSelection.Timestamp
