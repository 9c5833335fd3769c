import RecordSelection.Proofs.Text.Parts
import RecordSelection.Proofs.Url.Percent
import RecordSelection.Url.Form

/-!
# Query texts read back

A query is a list of pairs of a name and a value, as bytes. The pairs that are put behind a query
are read back byte for byte, and those that were there stay as they are.
-/

set_option autoImplicit false

namespace RecordSelection.Url.Form

def blankOfPlus (c : Char) : Char := if c = '+' then ' ' else c

def valueOf (s : List Char) : List UInt8 := decode (s.map blankOfPlus)

def pairOf (s : List Char) : List UInt8 × List UInt8 :=
  (valueOf (s.takeWhile (· ≠ '=')), valueOf ((s.dropWhile (· ≠ '=')).drop 1))

def pairsOf (query : List Char) : List (List UInt8 × List UInt8) :=
  ((Text.splitAt (· == '&') query).filter (!·.isEmpty)).map pairOf

def pairBytes (pair : String × String) : List UInt8 × List UInt8 :=
  (bytes pair.1.toList, bytes pair.2.toList)

theorem map_blankOfPlus_encodeBytes (bs : List UInt8) :
    (bs.flatMap encodeByte).map blankOfPlus = bs.flatMap encodeByte := by
  have hid : (bs.flatMap encodeByte).map blankOfPlus = (bs.flatMap encodeByte).map id := by
    apply List.map_congr_left
    intro c hc
    obtain ⟨b, -, hb⟩ := List.mem_flatMap.mp hc
    have hplus : c ≠ '+' := by
      rintro rfl
      rcases mem_encodeByte b '+' hb with h | h <;> exact absurd h (by decide)
    exact if_neg hplus
  rw [hid, List.map_id]

theorem ne_of_isPlain (c d : Char) (h : isPlain c = true) (hd : isPlain d = false) : c ≠ d := by
  rintro rfl
  rw [h] at hd
  exact absurd hd nofun

theorem decode_encodeChar (c : Char) (rest : List Char) :
    decode ((encodeChar c).map blankOfPlus ++ rest) = utf8 c ++ decode rest := by
  unfold encodeChar
  by_cases hplain : isPlain c = true
  · have hplus := ne_of_isPlain c '+' hplain (by decide)
    have hpercent := ne_of_isPlain c '%' hplain (by decide)
    rw [if_pos hplain, List.map_singleton, blankOfPlus, if_neg hplus]
    exact decode_cons_of_ne c rest hpercent
  · rw [if_neg hplain]
    by_cases hblank : c = ' '
    · subst hblank
      exact decode_cons_of_ne ' ' rest (by decide)
    · rw [if_neg hblank, map_blankOfPlus_encodeBytes]
      exact decode_encodeBytes _ rest

theorem valueOf_encode (s : List Char) : valueOf (encode s) = bytes s := by
  unfold valueOf encode
  induction s with
  | nil => rfl
  | cons c s ih => rw [List.flatMap_cons, List.map_append, decode_encodeChar, ih, bytes_cons]

theorem ne_of_mem_encode (s : List Char) (c d : Char) (h : c ∈ encode s)
    (hd : isPlain d = false ∧ d ≠ '+' ∧ d ≠ '%' ∧ d ∉ hexDigits) : c ≠ d := by
  rintro rfl
  obtain ⟨x, -, hx⟩ := List.mem_flatMap.mp h
  unfold encodeChar at hx
  split at hx
  case isTrue hplain =>
    obtain rfl := List.mem_singleton.mp hx
    rw [hplain] at hd
    exact absurd hd.1 nofun
  case isFalse =>
    split at hx
    · exact hd.2.1 (List.mem_singleton.mp hx)
    · obtain ⟨b, -, hb⟩ := List.mem_flatMap.mp hx
      rcases mem_encodeByte b c hb with hc | hc
      · exact hd.2.2.1 hc
      · exact hd.2.2.2 hc

theorem pairOf_encodePair (pair : String × String) : pairOf (encodePair pair) = pairBytes pair := by
  have hname : ∀ c ∈ encode pair.1.toList, decide (c ≠ '=') = true := by
    intro c hc
    exact decide_eq_true (ne_of_mem_encode _ c '=' hc (by decide))
  unfold pairOf encodePair
  rw [List.takeWhile_append_of_pos hname, List.dropWhile_append_of_pos hname]
  simp [valueOf_encode, pairBytes]

theorem pairsOf_encodePair (pair : String × String) :
    pairsOf (encodePair pair) = [pairBytes pair] := by
  have hsep : ∀ c ∈ encodePair pair, (c == '&') = false := by
    intro c hc
    rw [beq_eq_false_iff_ne]
    rcases List.mem_append.mp hc with hc | hc
    · exact ne_of_mem_encode _ c '&' hc (by decide)
    · rcases List.mem_cons.mp hc with rfl | hc
      · decide
      · exact ne_of_mem_encode _ c '&' hc (by decide)
  rw [pairsOf, Text.splitAt_of_forall _ _ hsep, List.filter_cons_of_pos (by simp [encodePair]),
    List.filter_nil, List.map_singleton, pairOf_encodePair]

theorem pairsOf_append (query more : List Char) :
    pairsOf (query ++ '&' :: more) = pairsOf query ++ pairsOf more := by
  unfold pairsOf
  rw [Text.splitAt_append_sep _ _ _ _ rfl, List.filter_append, List.map_append]

/-- Pairs put behind a query are read after those of the query. -/
theorem pairsOf_append_pairs (query : List Char) (pairs : List (String × String)) :
    pairsOf (append query pairs) = pairsOf query ++ pairs.map pairBytes := by
  induction pairs generalizing query with
  | nil => rw [append, List.map_nil, List.append_nil]
  | cons pair rest ih =>
    have hone : pairsOf (query ++ (if query.isEmpty then [] else ['&']) ++ encodePair pair) =
        pairsOf query ++ [pairBytes pair] := by
      cases query with
      | nil => exact pairsOf_encodePair pair
      | cons c query =>
        rw [if_neg (by simp), List.append_assoc, List.singleton_append, pairsOf_append,
          pairsOf_encodePair]
    rw [append, ih, hone, List.append_assoc, List.map_cons]
    rfl

end RecordSelection.Url.Form
