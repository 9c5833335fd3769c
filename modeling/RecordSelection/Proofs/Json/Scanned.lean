import Mathlib.Tactic.FinCases
import RecordSelection.Json.Render
import RecordSelection.Json.Scan
import RecordSelection.Proofs.Text.Parts

/-!
# Scanning what was rendered

The compact text of a value without numbers scans to the tree of that value, and nothing is left
over. A character below a blank that has no short escape comes back as the unit of its code, any
other as itself; either way the text reads as it was.
-/

set_option autoImplicit false

namespace RecordSelection.Json

def unitOf (c : Char) : TextUnit :=
  if c.toNat < 0x20 ∧ c ∉ ['\x08', '\x0c', '\n', '\r', '\t'] then .code c.toNat else .plain c

def writtenText (s : String) : TextDraft := ⟨s.toList.map unitOf, .closed⟩

def written : Json → Draft
  | .null => .null
  | .bool b => .bool b
  | .number n => .number (.ok n)
  | .text s => .text (writtenText s)
  | .list items => .list (writtenItems items) .closed
  | .object members => .object (writtenMembers members) .closed
where
  writtenItems : List Json → List Draft
    | [] => []
    | item :: rest => written item :: writtenItems rest
  writtenMembers : List (String × Json) → List (TextDraft × Draft)
    | [] => []
    | (key, value) :: rest => (writtenText key, written value) :: writtenMembers rest

def Numberless : Json → Prop
  | .number _ => False
  | .list items => NumberlessItems items
  | .object members => NumberlessMembers members
  | _ => True
where
  NumberlessItems : List Json → Prop
    | [] => True
    | item :: rest => Numberless item ∧ NumberlessItems rest
  NumberlessMembers : List (String × Json) → Prop
    | [] => True
    | (_, value) :: rest => Numberless value ∧ NumberlessMembers rest

theorem Numberless.items_iff (items : List Json) :
    NumberlessItems items ↔ ∀ item ∈ items, Numberless item := by
  induction items with
  | nil => simp [NumberlessItems]
  | cons item items ih => rw [NumberlessItems, ih, List.forall_mem_cons]

theorem Numberless.members_append (members more : List (String × Json)) :
    NumberlessMembers (members ++ more) ↔
      NumberlessMembers members ∧ NumberlessMembers more := by
  induction members with
  | nil => simp [NumberlessMembers]
  | cons member members ih =>
    rw [List.cons_append, NumberlessMembers, NumberlessMembers, ih, and_assoc]

theorem Numberless.members_optional {α : Type} (key : String) (write : α → Json)
    (value : Option α) (h : ∀ x ∈ value, Numberless (write x)) :
    NumberlessMembers (Json.optional key write value) := by
  cases value with
  | none => trivial
  | some x => exact ⟨h x rfl, trivial⟩

/-! ## Texts -/

namespace Scan

theorem text_close (rest : List Char) : text ('"' :: rest) = (⟨[], .closed⟩, rest) := by
  rw [text.eq_def]
  rfl

theorem text_plain (c : Char) (rest : List Char) (hquote : c ≠ '"') (hslash : c ≠ '\\')
    (hblank : ¬c.toNat < 0x20) : text (c :: rest) = before (.plain c) (text rest) := by
  rw [text.eq_def]
  simp only [hquote, hslash, hblank, if_false]

theorem text_short (e c : Char) (rest : List Char) (hu : e ≠ 'u') (h : escaped? e = some c) :
    text ('\\' :: e :: rest) = before (.plain c) (text rest) := by
  rw [text.eq_def]
  simp [hu, h]

theorem text_code (a b c d : Char) (rest : List Char) (unit : Nat)
    (h : hexUnit? a b c d = some unit) :
    text ('\\' :: 'u' :: a :: b :: c :: d :: rest) = before (.code unit) (text rest) := by
  rw [text.eq_def]
  simp [h]

theorem hexUnit_hexDigit (n : Nat) (h : n < 0x20) :
    hexUnit? '0' '0' (hexDigit (n / 16)) (hexDigit (n % 16)) = some n := by
  revert n
  decide

theorem text_escapeChar (c : Char) (rest : List Char) :
    text (escapeChar c ++ rest) = before (unitOf c) (text rest) := by
  by_cases hshort : c ∈ ['"', '\\', '\x08', '\x0c', '\n', '\r', '\t']
  · have h : ∃ e, escapeChar c = ['\\', e] ∧ e ≠ 'u' ∧ escaped? e = some c ∧
        unitOf c = .plain c := by
      fin_cases hshort <;> exact ⟨_, rfl, by decide, rfl, rfl⟩
    obtain ⟨e, hescape, hu, hstands, hunit⟩ := h
    rw [hescape, hunit]
    exact text_short e c rest hu hstands
  simp only [List.mem_cons, List.not_mem_nil, or_false, not_or] at hshort
  obtain ⟨hquote, hslash, hb, hf, hn, hr, ht⟩ := hshort
  by_cases hcontrol : c.toNat < 0x20
  · have hunit : unitOf c = .code c.toNat := by simp [unitOf, hcontrol, hb, hf, hn, hr, ht]
    have hescape : escapeChar c =
        ['\\', 'u', '0', '0', hexDigit (c.toNat / 16), hexDigit (c.toNat % 16)] := by
      simp [escapeChar, hquote, hslash, hb, hf, hn, hr, ht, hcontrol]
    rw [hunit, hescape]
    exact text_code _ _ _ _ rest c.toNat (hexUnit_hexDigit c.toNat hcontrol)
  · have hunit : unitOf c = .plain c := by simp [unitOf, hcontrol]
    have hescape : escapeChar c = [c] := by
      simp [escapeChar, hquote, hslash, hb, hf, hn, hr, ht, hcontrol]
    rw [hunit, hescape]
    exact text_plain c rest hquote hslash hcontrol

theorem text_rendered (s rest : List Char) :
    text (s.flatMap escapeChar ++ '"' :: rest) = (⟨s.map unitOf, .closed⟩, rest) := by
  induction s with
  | nil => exact text_close rest
  | cons c s ih =>
    rw [List.flatMap_cons, List.append_assoc, text_escapeChar, ih]
    rfl

end Scan

theorem assemble_unitOf (c : Char) (ending : TextEnd) (rest : List TextUnit) :
    TextDraft.assemble ending (unitOf c :: rest) = (c :: ·) <$> TextDraft.assemble ending rest := by
  unfold unitOf
  split
  case isTrue h =>
    -- no unit of a pair is that small
    have htrailing : TextDraft.isTrailing c.toNat = false := by
      simp only [TextDraft.isTrailing, Bool.and_eq_false_iff, decide_eq_false_iff_not]
      omega
    have hleading : TextDraft.isLeading c.toNat = false := by
      simp only [TextDraft.isLeading, Bool.and_eq_false_iff, decide_eq_false_iff_not]
      omega
    rw [TextDraft.assemble.eq_def]
    simp [htrailing, hleading, Char.ofNat_toNat]
  case isFalse => rw [TextDraft.assemble]

theorem read_writtenText (s : String) : (writtenText s).read = .ok s := by
  have hassemble : ∀ l : List Char, TextDraft.assemble .closed (l.map unitOf) = .ok l := by
    intro l
    induction l with
    | nil => rfl
    | cons c l ih =>
      rw [List.map_cons, assemble_unitOf, ih]
      rfl
  rw [TextDraft.read, writtenText, hassemble]
  exact congrArg Except.ok String.ofList_toList

/-! ## Values -/

def further (parts : List String) : List Char := parts.flatMap fun s => ',' :: s.toList

theorem toList_joined (first : String) (rest : List String) :
    (",".intercalate (first :: rest)).toList = first.toList ++ further rest :=
  Text.toList_intercalate_cons "," first rest

theorem toList_renderText (s : String) :
    (renderText s).toList = '"' :: (s.toList.flatMap escapeChar ++ ['"']) :=
  String.toList_ofList

theorem further_cons (first : String) (rest : List String) :
    further (first :: rest) = ',' :: (first.toList ++ further rest) :=
  List.flatMap_cons

theorem toList_member (key : String) (v : Json) :
    (renderText key ++ ":" ++ render v).toList =
      '"' :: (key.toList.flatMap escapeChar ++ '"' :: ':' :: (render v).toList) := by
  rw [String.toList_append, String.toList_append, toList_renderText]
  simp

theorem toList_render_list (item : Json) (items : List Json) :
    (render (.list (item :: items))).toList =
      '[' :: ((render item).toList ++ (further (render.renderItems items) ++ [']'])) := by
  have hopen : "[".toList = ['['] := rfl
  have hclose : "]".toList = [']'] := rfl
  rw [render, String.toList_append, String.toList_append, render.renderItems, toList_joined,
    List.append_assoc, List.append_assoc, hopen, hclose, List.singleton_append]

theorem toList_render_object (key : String) (v : Json) (members : List (String × Json)) :
    (render (.object ((key, v) :: members))).toList =
      '\x7b' :: ((renderText key ++ ":" ++ render v).toList ++
        (further (render.renderMembers members) ++ ['\x7d'])) := by
  have hopen : "\x7b".toList = ['\x7b'] := rfl
  have hclose : "\x7d".toList = ['\x7d'] := rfl
  rw [render, String.toList_append, String.toList_append, render.renderMembers, toList_joined,
    List.append_assoc, List.append_assoc, hopen, hclose, List.singleton_append]

namespace Scan

/-- A value can start here: no blank is to be skipped, and the list or object does not go on or
end. -/
def Opens (s : List Char) : Prop :=
  ∃ c rest, s = c :: rest ∧ isSpace c = false ∧ c ≠ ']' ∧ c ≠ ','

theorem afterSpace_cons (c : Char) (rest : List Char) (h : isSpace c = false) :
    afterSpace (c :: rest) = c :: rest := by
  simp [afterSpace, h]

variable (steps : Nat) (s : List Char)

theorem value_quote :
    value (steps + 1) ('"' :: s) = (.text (text s).1, (text s).2) := by
  rw [value.eq_def]
  rfl

theorem value_bracket : value (steps + 1) ('[' :: s) =
    (.list (firstItem steps s).1.1 (firstItem steps s).1.2, (firstItem steps s).2) := by
  rw [value.eq_def]
  rfl

theorem value_brace : value (steps + 1) ('\x7b' :: s) =
    (.object (firstMember steps s).1.1 (firstMember steps s).1.2, (firstMember steps s).2) := by
  rw [value.eq_def]
  rfl

theorem firstItem_opens (h : Opens s) : firstItem (steps + 1) s =
    beforeItem (value steps s).1 (moreItems steps (value steps s).2) := by
  obtain ⟨c, rest, rfl, hspace, hclose, hcomma⟩ := h
  rw [firstItem.eq_def]
  simp only [afterSpace_cons c rest hspace, hclose, hcomma, if_false]

theorem moreItems_close : moreItems (steps + 1) (']' :: s) = (([], .closed), s) := by
  rw [moreItems.eq_def]
  rfl

theorem moreItems_comma (h : Opens s) : moreItems (steps + 1) (',' :: s) =
    beforeItem (value steps s).1 (moreItems steps (value steps s).2) := by
  obtain ⟨c, rest, rfl, hspace, hclose, hcomma⟩ := h
  have hc : afterSpace (',' :: c :: rest) = ',' :: c :: rest := rfl
  rw [moreItems.eq_def]
  simp only [hc, afterSpace_cons c rest hspace, hclose, if_false]
  rfl

theorem firstMember_quote : firstMember (steps + 1) ('"' :: s) =
    beforeMember (text s).1 (memberValue steps (text s).2).1
      (moreMembers steps (memberValue steps (text s).2).2) := by
  rw [firstMember.eq_def]
  rfl

theorem moreMembers_close : moreMembers (steps + 1) ('\x7d' :: s) = (([], .closed), s) := by
  rw [moreMembers.eq_def]
  rfl

theorem moreMembers_comma : moreMembers (steps + 1) (',' :: '"' :: s) =
    beforeMember (text s).1 (memberValue steps (text s).2).1
      (moreMembers steps (memberValue steps (text s).2).2) := by
  rw [moreMembers.eq_def]
  rfl

theorem memberValue_colon : memberValue (steps + 1) (':' :: s) = value steps s := by
  rw [memberValue.eq_def]
  rfl

theorem firstMember_key (key : String) :
    firstMember (steps + 2) ('"' :: (key.toList.flatMap escapeChar ++ '"' :: ':' :: s)) =
      beforeMember (writtenText key) (value steps s).1
        (moreMembers (steps + 1) (value steps s).2) := by
  rw [firstMember_quote, text_rendered, memberValue_colon]
  rfl

theorem moreMembers_key (key : String) :
    moreMembers (steps + 2) (',' :: '"' :: (key.toList.flatMap escapeChar ++ '"' :: ':' :: s)) =
      beforeMember (writtenText key) (value steps s).1
        (moreMembers (steps + 1) (value steps s).2) := by
  rw [moreMembers_comma, text_rendered, memberValue_colon]
  rfl

theorem opens_render (v : Json) (rest : List Char) (h : Numberless v) :
    Opens ((render v).toList ++ rest) := by
  cases v with
  | null => exact ⟨'n', _, rfl, rfl, by decide, by decide⟩
  | bool b => cases b with
    | true => exact ⟨'t', _, rfl, rfl, by decide, by decide⟩
    | false => exact ⟨'f', _, rfl, rfl, by decide, by decide⟩
  | number n => exact h.elim
  | text s =>
    rw [render, toList_renderText]
    exact ⟨'"', _, rfl, rfl, by decide, by decide⟩
  | list items =>
    rw [render, String.toList_append, String.toList_append]
    exact ⟨'[', _, rfl, rfl, by decide, by decide⟩
  | object members =>
    rw [render, String.toList_append, String.toList_append]
    exact ⟨'\x7b', _, rfl, rfl, by decide, by decide⟩

theorem length_render_pos (v : Json) (h : Numberless v) : 0 < (render v).toList.length := by
  obtain ⟨c, rest, heq, -⟩ := opens_render v [] h
  rw [List.append_nil] at heq
  rw [heq]
  exact Nat.succ_pos _

mutual

/-- The text of a value is scanned to its tree. Each step takes a character at least, so as many
steps as there are characters are enough. -/
theorem value_render (v : Json) (steps : Nat) (rest : List Char) (hv : Numberless v)
    (hsteps : (render v).toList.length ≤ steps) :
    value steps ((render v).toList ++ rest) = (written v, rest) := by
  obtain ⟨n, rfl⟩ : ∃ n, steps = n + 1 := by
    have hpos := length_render_pos v hv
    exact ⟨steps - 1, by omega⟩
  cases v with
  | null => rfl
  | bool b => cases b <;> rfl
  | number x => exact hv.elim
  | text s =>
    rw [render, toList_renderText, List.cons_append, List.append_assoc, List.singleton_append,
      value_quote, text_rendered]
    rfl
  | list items =>
    cases items with
    | nil =>
      have htext : (render (.list [])).toList = ['[', ']'] := by decide
      rw [htext] at hsteps ⊢
      obtain ⟨m, rfl⟩ : ∃ m, n = m + 1 := Nat.exists_eq_add_of_le' (Nat.le_of_succ_le_succ hsteps)
      rfl
    | cons item items =>
      have hpos := length_render_pos item hv.1
      rw [toList_render_list] at hsteps ⊢
      simp only [List.length_cons, List.length_append, List.length_nil] at hsteps
      -- the bracket pays for the list, and the first character of the item for its place
      obtain ⟨m, rfl⟩ : ∃ m, n = m + 1 := ⟨n - 1, by omega⟩
      rw [List.cons_append, value_bracket, List.append_assoc,
        firstItem_opens m _ (opens_render item _ hv.1), value_render item m _ hv.1 (by omega),
        List.append_assoc, List.singleton_append, moreItems_render items m rest hv.2 (by omega)]
      rfl
  | object members =>
    cases members with
    | nil =>
      have htext : (render (.object [])).toList = ['\x7b', '\x7d'] := by decide
      rw [htext] at hsteps ⊢
      obtain ⟨m, rfl⟩ : ∃ m, n = m + 1 := Nat.exists_eq_add_of_le' (Nat.le_of_succ_le_succ hsteps)
      rfl
    | cons member members =>
      obtain ⟨key, v⟩ := member
      rw [toList_render_object, toList_member] at hsteps ⊢
      simp only [List.length_cons, List.length_append, List.length_nil] at hsteps
      -- one step more than for an item: the colon
      obtain ⟨m, rfl⟩ : ∃ m, n = m + 2 := ⟨n - 2, by omega⟩
      simp only [List.cons_append, List.append_assoc]
      rw [value_brace, firstMember_key m _ key, value_render v m _ hv.1 (by omega),
        List.nil_append, moreMembers_render members (m + 1) rest hv.2 (by omega)]
      rfl

theorem moreItems_render (items : List Json) (steps : Nat) (rest : List Char)
    (hitems : Numberless.NumberlessItems items)
    (hsteps : (further (render.renderItems items)).length < steps) :
    moreItems steps (further (render.renderItems items) ++ ']' :: rest) =
      ((written.writtenItems items, .closed), rest) := by
  match items, steps with
  | [], steps + 1 => exact moreItems_close steps rest
  | item :: items, steps + 1 =>
    have hpos := length_render_pos item hitems.1
    rw [render.renderItems, further_cons] at hsteps ⊢
    simp only [List.length_cons, List.length_append] at hsteps
    rw [List.cons_append, List.append_assoc,
      moreItems_comma steps _ (opens_render item _ hitems.1),
      value_render item steps _ hitems.1 (by omega),
      moreItems_render items steps rest hitems.2 (by omega)]
    rfl

theorem moreMembers_render (members : List (String × Json)) (steps : Nat) (rest : List Char)
    (hmembers : Numberless.NumberlessMembers members)
    (hsteps : (further (render.renderMembers members)).length < steps) :
    moreMembers steps (further (render.renderMembers members) ++ '\x7d' :: rest) =
      ((written.writtenMembers members, .closed), rest) := by
  match members with
  | [] =>
    obtain ⟨n, rfl⟩ := Nat.exists_eq_add_of_le' hsteps
    exact moreMembers_close n rest
  | (key, v) :: members =>
    rw [render.renderMembers, further_cons, toList_member] at hsteps ⊢
    simp only [List.length_cons, List.length_append] at hsteps
    obtain ⟨n, rfl⟩ : ∃ n, steps = n + 2 := ⟨steps - 2, by omega⟩
    simp only [List.cons_append, List.append_assoc]
    rw [moreMembers_key n _ key, value_render v n _ hmembers.1 (by omega),
      moreMembers_render members (n + 1) rest hmembers.2 (by omega)]
    rfl

end

theorem document_render (v : Json) (h : Numberless v) :
    document (render v) = ⟨written v, false⟩ := by
  have hlength : (render v).toList.length ≤ 4 * (render v).length + 4 := by
    rw [String.length_toList]
    omega
  have hvalue := value_render v _ [] h hlength
  rw [List.append_nil] at hvalue
  rw [document, hvalue]
  rfl

end Scan

end RecordSelection.Json
