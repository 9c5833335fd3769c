import RecordSelection.Number.Digits
import RecordSelection.Proofs.Text.Parts

/-!
# Digits read back

Reading digits off the front of a text takes as many as there are, within its limits, and so a
padded number is read back as the number.
-/

set_option autoImplicit false

namespace RecordSelection.Number

open RecordSelection.Text (Stops)

theorem leadingDigits_append (least most : Nat) (digits rest : List Char)
    (hdigits : ∀ c ∈ digits, isDigit c = true) (hleast : least ≤ digits.length)
    (hmost : digits.length ≤ most) (hend : digits.length = most ∨ Stops isDigit rest) :
    leadingDigits least most (digits ++ rest) = some (digits, rest) := by
  have htaken : ((digits ++ rest).take most).takeWhile isDigit = digits := by
    rw [List.take_append, List.take_of_length_le hmost]
    apply Text.takeWhile_run isDigit digits _ hdigits
    rcases hend with hlength | hend
    · simp [hlength, Text.stops_nil]
    · intro c hc
      refine hend c ?_
      rw [List.head?_take] at hc
      split at hc <;> simp_all
  unfold leadingDigits
  simp only [htaken]
  rw [if_neg (by omega), List.drop_left]

theorem leadingDigits_eq_some (least most : Nat) (s digits rest : List Char)
    (h : leadingDigits least most s = some (digits, rest)) :
    s = digits ++ rest ∧ (∀ c ∈ digits, isDigit c = true) ∧ least ≤ digits.length ∧
      digits.length ≤ most ∧ (digits.length = most ∨ Stops isDigit rest) := by
  unfold leadingDigits at h
  simp only at h
  split at h
  case isTrue => exact absurd h nofun
  case isFalse hleast =>
    obtain ⟨hdigits, hrest⟩ := Prod.mk.inj (Option.some.inj h)
    rw [hdigits] at hrest hleast
    have htake : s.take most = digits ++ (s.take most).dropWhile isDigit := by
      rw [← hdigits, List.takeWhile_append_dropWhile]
    have hs : s = digits ++ ((s.take most).dropWhile isDigit ++ s.drop most) := by
      rw [← List.append_assoc, ← htake, List.take_append_drop]
    have hrest : rest = (s.take most).dropWhile isDigit ++ s.drop most := by
      rw [← hrest]
      exact (congrArg (List.drop digits.length) hs).trans List.drop_left
    have hall : ∀ c ∈ digits, isDigit c = true := by
      intro c hc
      rw [← hdigits] at hc
      exact List.all_eq_true.mp (List.all_takeWhile) c hc
    have hlength := congrArg List.length htake
    rw [List.length_append, List.length_take] at hlength
    refine ⟨hrest ▸ hs, hall, by omega, by omega, ?_⟩
    cases hafter : (s.take most).dropWhile isDigit with
    | nil =>
      rw [hafter, List.length_nil] at hlength
      by_cases hmost : digits.length = most
      · exact .inl hmost
      · right
        rw [hrest, hafter, List.drop_eq_nil_of_le (by omega)]
        exact Text.stops_nil isDigit
    | cons c after =>
      have hend := Text.stops_dropWhile isDigit (s.take most)
      rw [hafter, Text.stops_cons] at hend
      rw [hrest, hafter]
      exact .inr ((Text.stops_cons isDigit _ _).mpr hend)

/-! ## Numbers of a fixed width -/

structure Digits (width : Nat) where
  chars : List Char
  length_eq : chars.length = width
  digits : ∀ c ∈ chars, isDigit c = true

theorem numeral_eq_ofDigitChars (digits : List Char) :
    numeral digits = Nat.ofDigitChars 10 digits 0 := by
  simp only [numeral, Nat.ofDigitChars_eq_foldl, digitValue, Nat.mul_comm]

theorem numeral_lt (digits : List Char) (hdigits : ∀ c ∈ digits, isDigit c = true) :
    numeral digits < Nat.pow 10 digits.length := by
  rw [numeral_eq_ofDigitChars]
  induction digits with
  | nil => decide
  | cons c digits ih =>
    have hc : c.toNat - '0'.toNat ≤ 9 := by
      have hc := hdigits c (by simp)
      simp only [isDigit, Bool.and_eq_true, decide_eq_true_eq, Char.le_def] at hc
      exact Nat.sub_le_sub_right hc.2 '0'.toNat
    have hmul := Nat.mul_le_mul_left (Nat.pow 10 digits.length) hc
    have hrest := ih fun d hd => hdigits d (by simp [hd])
    rw [Nat.ofDigitChars_cons, Nat.ofDigitChars_eq_ofDigitChars_zero, Nat.mul_zero, Nat.zero_add]
    change Nat.pow 10 digits.length * _ + _ < Nat.pow 10 digits.length * 10
    omega

theorem numeral_padded (width n : Nat) : numeral (padded width n) = n := by
  rw [numeral_eq_ofDigitChars, padded, Nat.ofDigitChars_append, Nat.ofDigitChars_replicate_zero,
    Nat.mul_zero, Nat.ofDigitChars_ten_toDigits]

theorem isDigit_padded (width n : Nat) (c : Char) (h : c ∈ padded width n) : isDigit c = true := by
  rcases List.mem_append.mp h with h | h
  · rw [(List.mem_replicate.mp h).2]
    rfl
  · have := Nat.isDigit_of_mem_toDigits (by decide) (by decide) h
    simpa [isDigit, Char.isDigit, Char.le_def] using this

theorem length_padded (width n : Nat) (hwidth : 0 < width) (h : n < Nat.pow 10 width) :
    (padded width n).length = width := by
  have hle := (Nat.length_toDigits_le_iff (by decide) hwidth).mpr h
  rw [padded, List.length_append, List.length_replicate]
  omega

namespace Digits

def value {width : Nat} (d : Digits width) : Nat := numeral d.chars

theorem value_lt {width : Nat} (d : Digits width) : d.value < Nat.pow 10 width := by
  have hlt := numeral_lt d.chars d.digits
  rwa [d.length_eq] at hlt

def ofNat (width n : Nat) (hwidth : 0 < width) (h : n < Nat.pow 10 width) : Digits width :=
  ⟨padded width n, length_padded width n hwidth h, isDigit_padded width n⟩

theorem value_ofNat (width n : Nat) (hwidth : 0 < width) (h : n < Nat.pow 10 width) :
    (ofNat width n hwidth h).value = n :=
  numeral_padded width n

end Digits

end RecordSelection.Number
