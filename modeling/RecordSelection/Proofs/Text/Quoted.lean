import Mathlib.Tactic.SplitIfs
import RecordSelection.Text.Quoted

/-!
# Quoted texts apart from what follows

The code of a character inside quotes is read back as the character, whatever follows it. So a
quoted text at the beginning of a longer one is known, and so is where it ends.
-/

set_option autoImplicit false

namespace RecordSelection.Text

/-! ## Code points -/

def hexValue (c : Char) : Nat := if c.toNat < 58 then c.toNat - 48 else c.toNat - 87

def hexNumeral (digits : List Char) : Nat :=
  digits.foldl (fun n c => n * 16 + hexValue c) 0

theorem hexDigits_eq (n : Nat) :
    hexDigits n =
      if n < 16 then [n.digitChar] else hexDigits (n / 16) ++ [(n % 16).digitChar] :=
  Nat.toDigits_eq_if (by decide)

theorem hexValue_digitChar (n : Nat) (h : n < 16) : hexValue n.digitChar = n := by
  revert n
  decide

theorem hexNumeral_hexDigits (n : Nat) : hexNumeral (hexDigits n) = n := by
  induction n using Nat.strongRecOn with
  | ind n ih =>
    rw [hexDigits_eq]
    split
    case isTrue h => simp [hexNumeral, hexValue_digitChar n h]
    case isFalse h =>
      have hrest : (hexDigits (n / 16)).foldl (fun n c => n * 16 + hexValue c) 0 = n / 16 :=
        ih (n / 16) (by omega)
      rw [hexNumeral, List.foldl_append, hrest]
      simp only [List.foldl_cons, List.foldl_nil, hexValue_digitChar (n % 16) (by omega)]
      omega

theorem ne_brace_of_mem_hexDigits (n : Nat) (c : Char) (h : c ∈ hexDigits n) : c ≠ '\x7d' := by
  induction n using Nat.strongRecOn with
  | ind n ih =>
    have hdigit : ∀ m < 16, m.digitChar ≠ '\x7d' := by decide
    rw [hexDigits_eq] at h
    split at h
    case isTrue hn =>
      rw [List.mem_singleton.mp h]
      exact hdigit n hn
    case isFalse hn =>
      rcases List.mem_append.mp h with h | h
      · exact ih (n / 16) (by omega) h
      · rw [List.mem_singleton.mp h]
        exact hdigit (n % 16) (by omega)

/-! ## Single characters -/

def unescape? : List Char → Option (Char × List Char)
  | 't' :: rest => some ('\t', rest)
  | 'r' :: rest => some ('\r', rest)
  | 'n' :: rest => some ('\n', rest)
  | '0' :: rest => some (Char.ofNat 0, rest)
  | 'u' :: _ :: rest =>
    some (Char.ofNat (hexNumeral (rest.takeWhile (· ≠ '\x7d'))),
      (rest.dropWhile (· ≠ '\x7d')).tail)
  | c :: rest => some (c, rest)
  | [] => none

def unquote? : List Char → Option (Char × List Char)
  | '\\' :: rest => unescape? rest
  | c :: rest => some (c, rest)
  | [] => none

theorem unescape?_code (c : Char) (rest : List Char) :
    unescape? ('u' :: '\x7b' :: (hexDigits c.toNat ++ '\x7d' :: rest)) = some (c, rest) := by
  have hdigits : ∀ d ∈ hexDigits c.toNat, decide (d ≠ '\x7d') = true :=
    fun d hd => decide_eq_true (ne_brace_of_mem_hexDigits c.toNat d hd)
  simp only [unescape?]
  rw [List.takeWhile_append_of_pos hdigits, List.dropWhile_append_of_pos hdigits]
  simp [hexNumeral_hexDigits]

theorem unquote?_quoteChar (c : Char) (rest : List Char) :
    unquote? (quoteChar c ++ rest) = some (c, rest) := by
  unfold quoteChar
  split_ifs with hquote hslash htab hreturn hnewline hnull hhidden
  · rw [hquote]; rfl
  · rw [hslash]; rfl
  · rw [htab]; rfl
  · rw [hreturn]; rfl
  · rw [hnewline]; rfl
  · rw [← c.ofNat_toNat, hnull]; rfl
  · simpa [unquote?] using unescape?_code c rest
  · simp only [List.cons_append, List.nil_append, unquote?]

/-- No code of a character begins the code of another. -/
theorem quoteChar_inj (c d : Char) (x y : List Char) (h : quoteChar c ++ x = quoteChar d ++ y) :
    c = d ∧ x = y := by
  have hread := congrArg unquote? h
  rw [unquote?_quoteChar, unquote?_quoteChar] at hread
  exact Prod.mk.inj (Option.some.inj hread)

/-! ## Whole texts -/

theorem quoteChar_opens (c : Char) : ∃ d code, quoteChar c = d :: code ∧ d ≠ '"' := by
  unfold quoteChar
  split_ifs with hquote
  case neg => exact ⟨c, [], rfl, hquote⟩
  all_goals exact ⟨'\\', _, rfl, by decide⟩

theorem close_ne (c : Char) (x y : List Char) : '"' :: x ≠ quoteChar c ++ y := by
  obtain ⟨d, code, hcode, hd⟩ := quoteChar_opens c
  rw [hcode]
  exact fun h => hd (List.cons.inj h).1.symm

theorem quoted_body_inj (cs ds x y : List Char)
    (h : cs.flatMap quoteChar ++ '"' :: x = ds.flatMap quoteChar ++ '"' :: y) :
    cs = ds ∧ x = y := by
  induction cs generalizing ds with
  | nil =>
    cases ds with
    | nil => exact ⟨rfl, (List.cons.inj h).2⟩
    | cons d ds =>
      rw [List.flatMap_cons, List.append_assoc] at h
      exact absurd h (close_ne d _ _)
  | cons c cs ih =>
    cases ds with
    | nil =>
      rw [List.flatMap_cons, List.append_assoc] at h
      exact absurd h.symm (close_ne c _ _)
    | cons d ds =>
      rw [List.flatMap_cons, List.flatMap_cons, List.append_assoc, List.append_assoc] at h
      obtain ⟨rfl, hrest⟩ := quoteChar_inj c d _ _ h
      obtain ⟨rfl, rfl⟩ := ih ds hrest
      exact ⟨rfl, rfl⟩

theorem toList_quoted (s : String) :
    (quoted s).toList = '"' :: (s.toList.flatMap quoteChar ++ ['"']) := by
  rw [quoted, String.toList_ofList]

theorem quoted_inj (s t : String) (x y : List Char)
    (h : (quoted s).toList ++ x = (quoted t).toList ++ y) : s = t ∧ x = y := by
  rw [toList_quoted, toList_quoted] at h
  simp only [List.cons_append, List.append_assoc, List.nil_append] at h
  obtain ⟨hs, rfl⟩ := quoted_body_inj _ _ _ _ (List.cons.inj h).2
  exact ⟨String.toList_inj.mp hs, rfl⟩

end RecordSelection.Text
