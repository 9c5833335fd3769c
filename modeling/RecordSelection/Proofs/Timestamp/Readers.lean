import RecordSelection.Proofs.Timestamp.Forms
import RecordSelection.Proofs.Timestamp.Instant
import RecordSelection.Timestamp.Written

/-!
# The two readers together

Where both readers take a text, the strict one as it stands and the relaxed one without its final
letter, the text is in universal time with a blank in the middle, and both find the same instant.
A text with an offset is left to the strict reader alone, and stands for an instant that lies as
much apart from the one in universal time as the offset says.
-/

set_option autoImplicit false

namespace RecordSelection.Timestamp

open RecordSelection.Number (Digits isDigit padded)

/-! ## What follows the time -/

def offsetText (sign : Char) (hours minutes : Nat) : List Char :=
  sign :: (padded 2 hours ++ ':' :: padded 2 minutes)

theorem offsetSize_padded (hours minutes : Nat) (hhours : hours ≤ 23) (hminutes : minutes ≤ 59) :
    offsetSize (padded 2 hours ++ ':' :: padded 2 minutes) =
      some (hours * 3600 + minutes * 60, []) := by
  have hread : ∀ n ≤ 99, ∀ rest, wide 2 (padded 2 n ++ rest) = some (n, rest) := by
    intro n hn rest
    have hwide := wide_append (Digits.ofNat 2 n (by decide) (Nat.lt_succ_of_le hn)) rest
    rwa [Digits.value_ofNat] at hwide
  have hlast := hread minutes (by omega) []
  rw [List.append_nil] at hlast
  simp [offsetSize, hread hours (by omega), letter_cons, hlast, hhours, hminutes]

theorem offsetSize_eq_some (size : Nat) (s rest : List Char)
    (h : offsetSize s = some (size, rest)) :
    ∃ (hours minutes : Digits 2), s = hours.chars ++ ':' :: (minutes.chars ++ rest) := by
  unfold offsetSize at h
  obtain ⟨⟨_, _⟩, hhours, h⟩ := Option.bind_eq_some_iff.mp h
  obtain ⟨⟨_, _⟩, hcolon, h⟩ := Option.bind_eq_some_iff.mp h
  obtain ⟨⟨_, _⟩, hminutes, h⟩ := Option.bind_eq_some_iff.mp h
  obtain ⟨hours, rfl, rfl⟩ := wide_eq_some _ _ _ _ hhours
  obtain rfl := letter_eq_some _ _ _ _ hcolon
  obtain ⟨minutes, rfl, rfl⟩ := wide_eq_some _ _ _ _ hminutes
  simp only at h
  split at h
  case isTrue => exact ⟨hours, minutes, by rw [(Prod.mk.inj (Option.some.inj h)).2]⟩
  case isFalse => exact absurd h nofun

theorem getLast?_of_offsetSize (size : Nat) (s : List Char) (sign : Char)
    (h : offsetSize s = some (size, [])) : (sign :: s).getLast? ≠ some 'Z' := by
  obtain ⟨hours, ⟨chars, hlength, hdigits⟩, rfl⟩ := offsetSize_eq_some size s [] h
  intro hlast
  have hmem : 'Z' ∈ chars := by
    cases chars with
    | nil => exact absurd hlength (by decide)
    | cons c chars =>
      apply List.mem_of_getLast?
      simpa [List.getLast?_cons, List.getLast?_append] using hlast
  exact absurd (hdigits 'Z' hmem) (by decide)

theorem zone_eq_some (s : List Char) (offset : Int) (h : zone s = some (offset, [])) :
    NumberEnd s ∧ s ≠ [] ∧ (s = ['Z'] ∧ offset = 0 ∨ s.getLast? ≠ some 'Z') := by
  cases s with
  | nil => exact absurd h nofun
  | cons c rest =>
    simp only [zone] at h
    split at h
    case isTrue hc =>
      obtain ⟨rfl, rfl⟩ := Prod.mk.inj (Option.some.inj h)
      rcases (by simpa using hc : c = 'Z' ∨ c = 'z') with rfl | rfl
      · exact ⟨numberEnd_cons _ _ (by decide) (by decide), by simp, .inl ⟨rfl, rfl⟩⟩
      · exact ⟨numberEnd_cons _ _ (by decide) (by decide), by simp, .inr (by simp)⟩
    case isFalse =>
      have hsign : (c = '+' ∨ c = '-' ∨ c = '−') ∧ ∃ size, offsetSize rest = some (size, []) := by
        split at h
        case isTrue hplus =>
          obtain ⟨⟨size, after⟩, hsize, h⟩ := Option.bind_eq_some_iff.mp h
          obtain ⟨-, rfl⟩ := Prod.mk.inj (Option.some.inj h)
          exact ⟨.inl hplus, size, hsize⟩
        case isFalse =>
          split at h
          case isTrue hminus =>
            obtain ⟨⟨size, after⟩, hsize, h⟩ := Option.bind_eq_some_iff.mp h
            obtain ⟨-, rfl⟩ := Prod.mk.inj (Option.some.inj h)
            exact ⟨.inr (by simpa using hminus), size, hsize⟩
          case isFalse => exact absurd h nofun
      obtain ⟨hc, size, hsize⟩ := hsign
      refine ⟨?_, by simp, .inr (getLast?_of_offsetSize size rest c hsize)⟩
      rcases hc with rfl | rfl | rfl <;> exact numberEnd_cons _ _ (by decide) (by decide)

theorem withoutZ_append (s : List Char) : withoutZ (s ++ ['Z']) = s := by
  simp [withoutZ]

theorem withoutZ_of_getLast? (s : List Char) (h : s.getLast? ≠ some 'Z') : withoutZ s = s := by
  unfold withoutZ
  split
  case h_1 rest heq =>
    rw [← List.head?_reverse, heq] at h
    exact absurd rfl h
  case h_2 => rfl

/-! ## Both readers on one text -/

theorem readStrict?_text (d : StrictTime) (after : List Char) (offset : Int)
    (h : zone after = some (offset, [])) :
    readStrict? (d.text ++ after) = ofFields? d.fields offset := by
  unfold readStrict?
  rw [strictFields_append d after (zone_eq_some after offset h).1]
  simp [h]

theorem readStrict?_eq_some (s : List Char) (t : Timestamp) (h : readStrict? s = some t) :
    ∃ (d : StrictTime) (after : List Char) (offset : Int),
      s = d.text ++ after ∧ zone after = some (offset, []) ∧ ofFields? d.fields offset = some t := by
  unfold readStrict? at h
  obtain ⟨⟨_, after⟩, hfields, h⟩ := Option.bind_eq_some_iff.mp h
  obtain ⟨⟨offset, rest⟩, hzone, h⟩ := Option.bind_eq_some_iff.mp h
  obtain ⟨d, rfl, rfl⟩ := strictFields_eq_some _ _ _ hfields
  simp only at h hzone
  split at h
  case isTrue hempty =>
    obtain rfl := List.isEmpty_iff.mp hempty
    exact ⟨d, after, offset, rfl, hzone, h⟩
  case isFalse => exact absurd h nofun

theorem readRelaxed?_text (d : StrictTime) (rest : List Char) (hrest : NumberEnd rest) :
    readRelaxed? (d.text ++ rest) =
      if d.separator = ' ' ∧ rest = [] then ofFields? d.fields 0 else none := by
  unfold readRelaxed?
  rw [StrictTime.text, relaxedFields_append _ _ _ rest
    (fun after => signedYear_append d.year ('-' :: after)) hrest]
  by_cases hblank : d.separator = ' '
  · simp only [hblank, if_true, true_and, List.isEmpty_iff, Option.bind_eq_bind, Option.bind_some]
    rfl
  · simp [hblank]

/-- The relaxed reader goes into a text of the strict form only if that has a blank in the middle
and a `Z` at its end. -/
theorem readRelaxed?_withoutZ (d : StrictTime) (after : List Char) (offset : Int)
    (h : zone after = some (offset, [])) :
    readRelaxed? (withoutZ (d.text ++ after)) =
      if d.separator = ' ' ∧ after = ['Z'] then ofFields? d.fields offset else none := by
  obtain ⟨hend, hne, ⟨rfl, rfl⟩ | hlast⟩ := zone_eq_some after offset h
  · have hread := readRelaxed?_text d [] numberEnd_nil
    rw [List.append_nil] at hread
    rw [withoutZ_append, hread]
    simp
  · have hkept : withoutZ (d.text ++ after) = d.text ++ after := by
      apply withoutZ_of_getLast?
      rw [List.getLast?_append, List.getLast?_eq_some_getLast hne, Option.some_or]
      rwa [List.getLast?_eq_some_getLast hne] at hlast
    have hnot : after ≠ ['Z'] := by
      rintro rfl
      exact hlast rfl
    rw [hkept, readRelaxed?_text d after hend]
    simp [hne, hnot]

theorem eq_of_both (s : List Char) (t u : Timestamp) (hstrict : readStrict? s = some t)
    (hrelaxed : readRelaxed? (withoutZ s) = some u) : t = u := by
  obtain ⟨d, after, offset, rfl, hzone, ht⟩ := readStrict?_eq_some s t hstrict
  rw [readRelaxed?_withoutZ d after offset hzone, ht] at hrelaxed
  split at hrelaxed
  case isTrue => exact Option.some.inj hrelaxed
  case isFalse => exact absurd hrelaxed nofun

theorem parse?_of_relaxed (s : String) (t : Timestamp)
    (h : readRelaxed? (withoutZ s.toList) = some t) : parse? s = some t := by
  unfold parse?
  split
  case h_1 u hstrict => rw [eq_of_both s.toList u t hstrict h]
  case h_2 => exact h

theorem parse?_text (d : StrictTime) (after : List Char) (offset : Int)
    (h : zone after = some (offset, [])) :
    parse? (String.ofList (d.text ++ after)) = ofFields? d.fields offset := by
  unfold parse?
  rw [String.toList_ofList, readStrict?_text d after offset h,
    readRelaxed?_withoutZ d after offset h]
  cases ofFields? d.fields offset with
  | some t => rfl
  | none => simp

/-- No text stands for two instants, one with each reader, and so it does not matter which of them
comes first. Both take a text that the strict one takes if it has a blank in the middle and a `Z` at
its end. -/
theorem readers_agree :
    (∀ s t u, readStrict? s = some t → readRelaxed? (withoutZ s) = some u → t = u) ∧
      (∀ s t, readStrict? s = some t →
        ((readRelaxed? (withoutZ s)).isSome ↔
          ∃ d : StrictTime, d.separator = ' ' ∧ s = d.text ++ ['Z'])) ∧
      ∀ s : String, parse? s = (readRelaxed? (withoutZ s.toList)).or (readStrict? s.toList) := by
  refine ⟨eq_of_both, fun s t hstrict => ⟨fun hrelaxed => ?_, ?_⟩, fun s => ?_⟩
  · obtain ⟨d, after, offset, rfl, hzone, -⟩ := readStrict?_eq_some s t hstrict
    rw [readRelaxed?_withoutZ d after offset hzone] at hrelaxed
    split at hrelaxed
    case isTrue h => exact ⟨d, h.1, by rw [h.2]⟩
    case isFalse => exact absurd hrelaxed nofun
  · rintro ⟨d, hblank, rfl⟩
    rw [readStrict?_text d ['Z'] 0 rfl] at hstrict
    rw [readRelaxed?_withoutZ d ['Z'] 0 rfl, if_pos ⟨hblank, rfl⟩, hstrict]
    rfl
  · cases hrelaxed : readRelaxed? (withoutZ s.toList) with
    | some u => exact parse?_of_relaxed s u hrelaxed
    | none =>
      unfold parse?
      rw [hrelaxed]
      cases readStrict? s.toList <;> rfl

/-- A leap second on a leap day, with ten digits in its fraction. -/
theorem readers_agree_leap_second :
    let s := "2024-02-29 23:59:60.1234567899Z".toList
    ∃ t u, readStrict? s = some t ∧ readRelaxed? (withoutZ s) = some u ∧ t = u ∧
      t.nanos = 1123456789 := by
  intro s
  have hstrict : (readStrict? s).isSome := by decide +kernel
  have hrelaxed : (readRelaxed? (withoutZ s)).isSome := by decide +kernel
  obtain ⟨t, ht⟩ := Option.isSome_iff_exists.mp hstrict
  obtain ⟨u, hu⟩ := Option.isSome_iff_exists.mp hrelaxed
  have hnanos : (readStrict? s).map (·.nanos) = some 1123456789 := by decide +kernel
  rw [ht] at hnanos
  exact ⟨t, u, ht, hu, readers_agree.1 s t u ht hu, Option.some.inj hnanos⟩

/-! ## Offsets -/

theorem fields_year (d : StrictTime) : 0 ≤ d.fields.year ∧ d.fields.year ≤ 9999 := by
  have hlt : d.year.value < 10000 := d.year.value_lt
  have hyear : d.fields.year = d.year.value := rfl
  omega

theorem parse?_offset (d : StrictTime) (after : List Char) (offset : Int)
    (h : zone after = some (offset, [])) (hminutes : offset % 60 = 0)
    (hsize : -secondsPerDay < offset ∧ offset < secondsPerDay) :
    ((parse? (String.ofList (d.text ++ after))).map fun t => (t.seconds, t.nanos)) =
      (parse? (String.ofList (d.text ++ ['Z']))).map fun t => (t.seconds - offset, t.nanos) := by
  rw [parse?_text d after offset h, parse?_text d ['Z'] 0 rfl]
  exact ofFields?_offset d.fields offset (fields_year d) hminutes hsize

/-- A text with an offset is taken whenever the same text in universal time is. It stands for an
instant with the same nanoseconds, as many seconds before the other one as the offset has, or after
it where the sign is a hyphen or a minus sign. -/
theorem offset_shifts (d : StrictTime) (hours minutes : Nat) (hhours : hours ≤ 23)
    (hminutes : minutes ≤ 59) :
    let read (after : List Char) := parse? (String.ofList (d.text ++ after))
    let size : Int := 3600 * hours + 60 * minutes
    ((read (offsetText '+' hours minutes)).map fun t => (t.seconds, t.nanos)) =
        ((read ['Z']).map fun t => (t.seconds - size, t.nanos)) ∧
      ∀ sign, sign = '-' ∨ sign = '−' →
        ((read (offsetText sign hours minutes)).map fun t => (t.seconds, t.nanos)) =
          (read ['Z']).map fun t => (t.seconds + size, t.nanos) := by
  intro read size
  have hread := offsetSize_padded hours minutes hhours hminutes
  have hsize : ((hours * 3600 + minutes * 60 : Nat) : Int) = size := by
    simp only [size]
    omega
  have hbound : size % 60 = 0 ∧ 0 ≤ size ∧ size < secondsPerDay := by
    unfold secondsPerDay
    omega
  have hplus : zone (offsetText '+' hours minutes) = some (size, []) := by
    simp [zone, offsetText, hread, ← hsize]
  have hminus : ∀ sign, sign = '-' ∨ sign = '−' →
      zone (offsetText sign hours minutes) = some (-size, []) := by
    rintro sign (rfl | rfl) <;> simp [zone, offsetText, hread, ← hsize]
  constructor
  · exact parse?_offset d _ size hplus hbound.1 (by unfold secondsPerDay at *; omega)
  · intro sign hsign
    have hshift := parse?_offset d _ (-size) (hminus sign hsign) (by omega)
      (by unfold secondsPerDay at *; omega)
    simpa only [Int.sub_neg] using hshift

/-- A leap second at the end of the last year of four digits goes on into the year after. -/
theorem offset_shifts_beyond_years :
    let d : StrictTime :=
      { month := .ofNat 2 12 (by decide) (by decide), day := .ofNat 2 31 (by decide) (by decide)
        separator := 't', hour := .ofNat 2 23 (by decide) (by decide)
        minute := .ofNat 2 59 (by decide) (by decide)
        second := .ofNat 2 60 (by decide) (by decide), fraction := ['5']
        separates := by decide, fractional := List.forall_mem_singleton.mpr (by decide)
        year := .ofNat 4 9999 (by decide) (by decide) }
    d.text = "9999-12-31t23:59:60.5".toList ∧ 23 ≤ 23 ∧ 59 ≤ 59 ∧
      ((parse? "9999-12-31t23:59:60.5Z").map fun t => (t.seconds, t.nanos)) =
        some (253402300799, 1500000000) ∧
      ((parse? "9999-12-31t23:59:60.5−23:59").map fun t => (t.seconds, t.nanos)) =
        some (253402300799 + 86340, 1500000000) := by
  intro d
  have hread : ((parse? "9999-12-31t23:59:60.5Z").map fun t => (t.seconds, t.nanos)) =
      some (253402300799, 1500000000) := by decide +kernel
  refine ⟨by decide +kernel, by decide, by decide, hread, ?_⟩
  have hshift := (offset_shifts d 23 59 (by decide) (by decide)).2 '−' (.inr rfl)
  have hminus : String.ofList (d.text ++ offsetText '−' 23 59) = "9999-12-31t23:59:60.5−23:59" := by
    decide +kernel
  have huniversal : String.ofList (d.text ++ ['Z']) = "9999-12-31t23:59:60.5Z" := by
    decide +kernel
  simp only [hminus, huniversal] at hshift
  rw [hshift]
  decide +kernel

end RecordSelection.Timestamp
