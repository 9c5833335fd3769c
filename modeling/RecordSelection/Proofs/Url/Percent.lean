import RecordSelection.Url.Percent

/-!
# Percent encoding read back

Decoding gives back the bytes of an encoded text, whatever set of characters is encoded, as long as
the percent sign is one of them. No encoded character is left in an encoded text.
-/

set_option autoImplicit false

namespace RecordSelection.Url

def bytes (s : List Char) : List UInt8 := s.flatMap utf8

theorem bytes_cons (c : Char) (s : List Char) : bytes (c :: s) = utf8 c ++ bytes s := rfl

def hexDigits : List Char :=
  ['0', '1', '2', '3', '4', '5', '6', '7', '8', '9', 'A', 'B', 'C', 'D', 'E', 'F']

theorem hexDigitUpper_mem (b : UInt8) (h : b.toNat < 16) : hexDigitUpper b ∈ hexDigits := by
  have hall : ∀ n : Fin 16, (Nat.digitChar n).toUpper ∈ hexDigits := by decide
  exact hall ⟨b.toNat, h⟩

theorem hexValue?_hexDigitUpper (b : UInt8) (h : b.toNat < 16) :
    hexValue? (hexDigitUpper b) = some b.toNat := by
  have hall : ∀ n : Fin 16, hexValue? (Nat.digitChar n).toUpper = some n.val := by decide
  exact hall ⟨b.toNat, h⟩

theorem toNat_div_lt (b : UInt8) : (b / 16).toNat < 16 := by
  have hb := b.toNat_lt
  rw [UInt8.toNat_div]
  change b.toNat / 16 < 16
  omega

theorem toNat_mod_lt (b : UInt8) : (b % 16).toNat < 16 := by
  rw [UInt8.toNat_mod]
  exact Nat.mod_lt _ (by decide)

theorem decode_encodeByte (b : UInt8) (rest : List Char) :
    decode (encodeByte b ++ rest) = b :: decode rest := by
  have hvalue : ((b / 16).toNat * 16 + (b % 16).toNat).toUInt8 = b := by
    rw [UInt8.toNat_div, UInt8.toNat_mod]
    change (b.toNat / 16 * 16 + b.toNat % 16).toUInt8 = b
    rw [Nat.div_add_mod']
    exact UInt8.ofNat_toNat
  change decode ('%' :: hexDigitUpper (b / 16) :: hexDigitUpper (b % 16) :: rest) = _
  simp only [decode]
  rw [hexValue?_hexDigitUpper _ (toNat_div_lt b), hexValue?_hexDigitUpper _ (toNat_mod_lt b)]
  simp only [hvalue]

theorem decode_encodeBytes (bs : List UInt8) (rest : List Char) :
    decode (bs.flatMap encodeByte ++ rest) = bs ++ decode rest := by
  induction bs with
  | nil => rfl
  | cons b bs ih => rw [List.flatMap_cons, List.append_assoc, decode_encodeByte, ih]; rfl

theorem decode_cons_of_ne (c : Char) (rest : List Char) (h : c ≠ '%') :
    decode (c :: rest) = utf8 c ++ decode rest := by
  rw [decode]
  exact fun _ _ _ hc _ => h hc

theorem decode_encodeChar (set : EncodeSet) (percent : set '%' = true) (c : Char)
    (rest : List Char) : decode (encodeChar set c ++ rest) = utf8 c ++ decode rest := by
  unfold encodeChar
  split
  case isTrue => exact decode_encodeBytes _ rest
  case isFalse plain =>
    apply decode_cons_of_ne
    rintro rfl
    exact plain percent

theorem decode_encode_append (set : EncodeSet) (percent : set '%' = true) (s rest : List Char) :
    decode (encode set s ++ rest) = bytes s ++ decode rest := by
  unfold encode
  induction s with
  | nil => rfl
  | cons c s ih =>
    rw [List.flatMap_cons, List.append_assoc, decode_encodeChar set percent, ih, bytes_cons,
      List.append_assoc]

theorem decode_encode (set : EncodeSet) (percent : set '%' = true) (s : List Char) :
    decode (encode set s) = bytes s := by
  have h := decode_encode_append set percent s []
  rw [List.append_nil] at h
  rw [h, decode, List.append_nil]

theorem mem_encodeByte (b : UInt8) (c : Char) (h : c ∈ encodeByte b) :
    c = '%' ∨ c ∈ hexDigits := by
  unfold encodeByte at h
  simp only [List.mem_cons, List.not_mem_nil, or_false] at h
  rcases h with rfl | rfl | rfl
  · exact .inl rfl
  · exact .inr (hexDigitUpper_mem _ (toNat_div_lt b))
  · exact .inr (hexDigitUpper_mem _ (toNat_mod_lt b))

theorem mem_encode (set : EncodeSet) (s : List Char) (c : Char) (h : c ∈ encode set s) :
    (c = '%' ∨ c ∈ hexDigits) ∨ (c ∈ s ∧ set c = false) := by
  obtain ⟨d, hd, hc⟩ := List.mem_flatMap.mp h
  unfold encodeChar at hc
  split at hc
  case isTrue =>
    obtain ⟨b, -, hb⟩ := List.mem_flatMap.mp hc
    exact .inl (mem_encodeByte b c hb)
  case isFalse plain =>
    obtain rfl := List.mem_singleton.mp hc
    exact .inr ⟨hd, by simpa using plain⟩

theorem notMem_encode (set : EncodeSet) (s : List Char) (c : Char) (encoded : set c = true)
    (hc : c ≠ '%' ∧ c ∉ hexDigits) : c ∉ encode set s := by
  intro h
  rcases mem_encode set s c h with (h | h) | ⟨-, h⟩
  · exact hc.1 h
  · exact hc.2 h
  · rw [encoded] at h
    exact absurd h nofun

end RecordSelection.Url
