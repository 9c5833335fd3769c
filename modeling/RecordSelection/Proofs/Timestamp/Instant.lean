import RecordSelection.Proofs.Timestamp.Calendar
import RecordSelection.Timestamp.Basic

/-!
# Instants and their parts

An instant is put together again from its parts, leap seconds included. The parts of a time at an
offset give the instant that lies so much before the one they give in universal time.
-/

set_option autoImplicit false

namespace RecordSelection.Timestamp

theorem ofUnix?_eq (t : Timestamp) (nanos : Nat) (h : nanos = t.nanos) :
    ofUnix? t.seconds nanos = some t := by
  subst h
  exact dif_pos t.representable

theorem map_ofUnix? {α : Type} (seconds : Int) (nanos : Nat) (g : Int → Nat → α) :
    (ofUnix? seconds nanos).map (fun t => g t.seconds t.nanos) =
      if Representable seconds nanos then some (g seconds nanos) else none := by
  unfold ofUnix?
  split <;> rfl

/-! ## From an instant to its parts and back -/

section

variable (t : Timestamp)

theorem nanos_div_le : t.nanos / secondNanos ≤ 1 := by
  have hnanos := t.representable.2.2.1
  unfold secondNanos at *
  omega

theorem year_mem : firstYear ≤ t.fields.year ∧ t.fields.year ≤ lastYear := by
  obtain ⟨hfirst, hlast, -, -⟩ := t.representable
  have hvalid := Date.valid_ofDays (t.seconds / secondsPerDay)
  have hdays := Date.toDays_ofDays (t.seconds / secondsPerDay)
  unfold firstSecond lastSecond secondsPerDay at *
  constructor
  · by_contra hlt
    have := Date.toDays_lt_of_year_lt _ ⟨firstYear, 1, 1⟩ hvalid (by decide) (Int.not_le.mp hlt)
    omega
  · by_contra hgt
    have := Date.toDays_lt_of_year_lt ⟨lastYear, 12, 31⟩ _ (by decide) hvalid (Int.not_le.mp hgt)
    omega

theorem second_eq_sixty_iff : t.fields.second = 60 ↔ secondNanos ≤ t.nanos := by
  obtain ⟨-, -, hnanos, hleap⟩ := t.representable
  have hsecond : t.fields.second =
      (t.seconds % secondsPerDay).toNat % 60 + t.nanos / secondNanos := rfl
  unfold secondsPerDay secondNanos at *
  omega

theorem ofFields?_fields (nanos : Nat) :
    ofFields? { t.fields with nanos } 0 =
      ofUnix? t.seconds (t.nanos / secondNanos * secondNanos + nanos) := by
  have hvalid : (Date.mk t.fields.year t.fields.month t.fields.day).Valid :=
    Date.valid_ofDays (t.seconds / secondsPerDay)
  have hdays : (Date.mk t.fields.year t.fields.month t.fields.day).toDays =
      t.seconds / secondsPerDay := Date.toDays_ofDays _
  have hhour : t.fields.hour = (t.seconds % secondsPerDay).toNat / 3600 := rfl
  have hminute : t.fields.minute = (t.seconds % secondsPerDay).toNat / 60 % 60 := rfl
  have hsecond : t.fields.second =
      (t.seconds % secondsPerDay).toNat % 60 + t.nanos / secondNanos := rfl
  have hsixty := t.second_eq_sixty_iff
  obtain ⟨hfirst, hlast⟩ := t.year_mem
  obtain ⟨-, -, hnanos, hleap⟩ := t.representable
  unfold ofFields?
  simp only
  rw [hdays]
  unfold secondsPerDay secondNanos at *
  rw [if_pos ⟨hvalid, hfirst, hlast, by omega, by omega, by omega⟩]
  congr 1
  · split_ifs <;> omega
  · split_ifs <;> omega

end

/-! ## Offsets -/

/-- Within the years of four digits no offset leaves the years there are. -/
theorem representable_sub_iff (seconds offset : Int) (nanos : Nat)
    (hfirst : firstSecond + secondsPerDay ≤ seconds)
    (hlast : seconds ≤ lastSecond - secondsPerDay) (hminutes : offset % 60 = 0)
    (hsize : -secondsPerDay < offset ∧ offset < secondsPerDay) :
    Representable (seconds - offset) nanos ↔ Representable seconds nanos := by
  unfold Representable
  have hsecond : (seconds - offset) % 60 = seconds % 60 := by omega
  rw [hsecond]
  constructor
  · rintro ⟨-, -, hnanos⟩
    exact ⟨by unfold secondsPerDay at *; omega, by unfold secondsPerDay at *; omega, hnanos⟩
  · rintro ⟨-, -, hnanos⟩
    exact ⟨by omega, by omega, hnanos⟩

theorem ofFields?_offset (f : Fields) (offset : Int) (hyear : 0 ≤ f.year ∧ f.year ≤ 9999)
    (hminutes : offset % 60 = 0) (hsize : -secondsPerDay < offset ∧ offset < secondsPerDay) :
    ((ofFields? f offset).map fun t => (t.seconds, t.nanos)) =
      (ofFields? f 0).map fun t => (t.seconds - offset, t.nanos) := by
  unfold ofFields?
  simp only
  split
  case isFalse => rfl
  case isTrue h =>
    obtain ⟨hvalid, -, -, hhour, hminute, hsecond⟩ := h
    have hafter := Date.toDays_lt_of_year_lt ⟨-1, 12, 31⟩ ⟨f.year, f.month, f.day⟩ (by decide)
      hvalid (show -1 < f.year by omega)
    have hbefore := Date.toDays_lt_of_year_lt ⟨f.year, f.month, f.day⟩ ⟨10000, 1, 1⟩ hvalid
      (by decide) (show f.year < 10000 by omega)
    have hfirst : firstSecond + secondsPerDay ≤ (Date.mk (-1) 12 31).toDays * secondsPerDay := by
      decide
    have hlast : (Date.mk 10000 1 1).toDays * secondsPerDay ≤ lastSecond - secondsPerDay := by
      decide
    generalize (Date.mk f.year f.month f.day).toDays = days at *
    generalize hseconds : days * secondsPerDay + f.hour * 3600 + f.minute * 60
      + (if f.second = 60 then 59 else (f.second : Int)) = seconds
    have hmin : firstSecond + secondsPerDay ≤ seconds := by
      unfold secondsPerDay at *
      split_ifs at hseconds <;> omega
    have hmax : seconds ≤ lastSecond - secondsPerDay := by
      unfold secondsPerDay at *
      split_ifs at hseconds <;> omega
    rw [Int.sub_zero, map_ofUnix? _ _ (fun seconds nanos => (seconds, nanos)),
      map_ofUnix? _ _ (fun seconds nanos => (seconds - offset, nanos))]
    exact if_congr (representable_sub_iff seconds offset _ hmin hmax hminutes hsize) rfl rfl

end RecordSelection.Timestamp
