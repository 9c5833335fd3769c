import Mathlib.Logic.Relation
import RecordSelection.Json.Reading
import RecordSelection.Proofs.Json.Scanned
import RecordSelection.Proofs.Selection.Walk

/-!
# Reading what was written

How a value of a type is read back from its text: whole, or not at all when it is nested deeper
than the levels left. A list reads so when its items do, and a record when each of its parts is
read into its own field. However a record was written, it is made by storing fields one after
another into the initial one.
-/

set_option autoImplicit false

namespace RecordSelection.Json.Reader

variable {α σ : Type}

/-- With so many levels left the text of `v` is read as `value`, unless it is nested deeper. -/
def ReadsAt (reader : Reader α) (levels : Nat) (v : Json) (value : α) : Prop :=
  reader (.text levels) (written v) = if v.nesting ≤ levels then .ok value else .error .tooDeep

theorem readsAt_text (levels : Nat) (s : String) : ReadsAt text levels (.text s) s :=
  (read_writtenText s).trans (if_pos (Nat.zero_le levels)).symm

theorem readsAt_optional (reader : Reader α) (levels : Nat) (v : Json) (value : α) (hv : v ≠ .null)
    (h : ReadsAt reader levels v value) : ReadsAt (optional reader) levels v (some value) := by
  have hoptional : optional reader (.text levels) (written v) =
      some <$> reader (.text levels) (written v) := by
    cases v <;> first | rfl | exact absurd rfl hv
  rw [ReadsAt, hoptional, h]
  split <;> rfl

theorem items_written (reader : Reader α) (levels : Nat) (write : α → Json) (values : List α)
    (h : ∀ value ∈ values, ReadsAt reader levels (write value) value) :
    items reader (.text levels) (written.writtenItems (values.map write)) =
      if nesting.deepest (values.map write) ≤ levels then .ok values else .error .tooDeep := by
  induction values with
  | nil => rfl
  | cons value values ih =>
    obtain ⟨hvalue, hvalues⟩ := List.forall_mem_cons.mp h
    rw [List.map_cons, written.writtenItems, items, hvalue, ih hvalues, nesting.deepest]
    simp only [Nat.max_le]
    split_ifs <;> first | rfl | omega

theorem readsAt_list (reader : Reader α) (levels : Nat) (write : α → Json) (values : List α)
    (h : ∀ inner < levels, ∀ value ∈ values, ReadsAt reader inner (write value) value) :
    ReadsAt (list reader) levels (.list (values.map write)) values := by
  rw [ReadsAt, nesting, written, list]
  cases levels with
  | zero =>
    rw [if_neg (by omega)]
    rfl
  | succ inner =>
    have hitems := items_written reader inner write values (h inner inner.lt_succ_self)
    simp only [Source.enter, bind, Except.bind, hitems, ListStop.read]
    split_ifs <;> first | rfl | omega

/-! ## Parts stored into their fields -/

/-- Each part goes from its text into the field of its name, or is refused as too deep; one after
another they turn the record `a` into `b`. -/
inductive Fills (fields : List (Member σ)) (levels : Nat) :
    σ → List (String × Json) → σ → Prop where
  | nil (a : σ) : Fills fields levels a [] a
  | cons {a b c : σ} {field : Member σ} {v : Json} {parts : List (String × Json)}
      (find : fields.find? (·.name == field.name) = some field)
      (store : field.store (.text levels) (written v) a =
        if v.nesting ≤ levels then .ok b else .error .tooDeep)
      (rest : Fills fields levels b parts c) :
      Fills fields levels a ((field.name, v) :: parts) c

namespace Fills

variable {fields : List (Member σ)} {levels : Nat}

theorem append {a b c : σ} {parts more : List (String × Json)} (h : Fills fields levels a parts b)
    (hmore : Fills fields levels b more c) : Fills fields levels a (parts ++ more) c := by
  induction h with
  | nil => exact hmore
  | cons find store rest ih => exact .cons find store (ih hmore)

theorem single (fields : List (Member σ)) (levels : Nat) (name : String) {absence : Absence}
    {reader : Reader α} {put : α → σ → σ}
    (find : fields.find? (·.name == name) = some (field name absence reader put)) (a : σ)
    (v : Json) (value : α) (h : ReadsAt reader levels v value) :
    Fills fields levels a [(name, v)] (put value a) := by
  have hstore : (field name absence reader put).store (.text levels) (written v) a =
      if v.nesting ≤ levels then .ok (put value a) else .error .tooDeep := by
    change (reader (.text levels) (written v) >>= fun value => pure (put value a)) = _
    rw [h]
    split <;> rfl
  exact .cons find hstore (.nil _)

theorem optional (fields : List (Member σ)) (levels : Nat) (name : String) {absence : Absence}
    {reader : Reader α} {put : Option α → σ → σ}
    (find : fields.find? (·.name == name) =
      some (field name absence (Reader.optional reader) put)) (a : σ)
    (write : α → Json) (value : Option α) (hnone : put none a = a)
    (h : ∀ x ∈ value, write x ≠ .null ∧ ReadsAt reader levels (write x) x) :
    Fills fields levels a (Json.optional name write value) (put value a) := by
  cases value with
  | none =>
    rw [hnone]
    exact .nil a
  | some x =>
    obtain ⟨hx, hreads⟩ := h x rfl
    exact single fields levels name find a (write x) (some x)
      (readsAt_optional reader levels (write x) x hx hreads)

theorem named_written {a b : σ} {parts : List (String × Json)}
    (h : Fills fields levels a parts b) (seen : List String)
    (hdistinct : (parts.map Prod.fst).Nodup) (hnew : ∀ name ∈ parts.map Prod.fst, name ∉ seen) :
    named fields (.text levels) seen (written.writtenMembers parts) a =
      if nesting.deepestMember parts ≤ levels then .ok ((parts.map Prod.fst).reverse ++ seen, b)
      else .error .tooDeep := by
  induction h generalizing seen with
  | nil => rfl
  | @cons a b c field v parts find store rest ih =>
    rw [List.map_cons] at hdistinct hnew ⊢
    obtain ⟨hfirst, hdistinct⟩ := List.nodup_cons.mp hdistinct
    obtain ⟨hunseen, hnew⟩ := List.forall_mem_cons.mp hnew
    have hcontains : seen.contains field.name = false := by simpa using hunseen
    have hnext := ih (field.name :: seen) hdistinct fun name mem => by
      rintro (_ | ⟨_, hseen⟩)
      · exact hfirst mem
      · exact hnew name mem hseen
    rw [written.writtenMembers, named, read_writtenText, nesting.deepestMember]
    simp only [bind, Except.bind, find, hcontains, store, Nat.max_le]
    by_cases hv : v.nesting ≤ levels
    · simp [hv, hnext]
    · simp [hv]

end Fills

/-- A record written as an object of parts of different names, all wanted ones among them, is read
back if every part goes into its field. -/
theorem readsAt_record (name : String) (fields : List (Member σ)) (initial b : σ) (levels : Nat)
    (parts : List (String × Json))
    (h : ∀ inner < levels, Fills fields inner initial parts b)
    (hdistinct : (parts.map Prod.fst).Nodup)
    (hwanted : ∀ field ∈ fields, field.absence = .wanted → field.name ∈ parts.map Prod.fst) :
    ReadsAt (record name fields initial) levels (.object parts) b := by
  rw [ReadsAt, nesting, written, record]
  cases levels with
  | zero =>
    rw [if_neg (by omega)]
    rfl
  | succ inner =>
    have hnamed := (h inner inner.lt_succ_self).named_written [] hdistinct (by simp)
    have hmissing : fields.find? (fun field => field.absence = .wanted &&
        !((parts.map Prod.fst).reverse ++ []).contains field.name) = none := by
      rw [List.find?_eq_none]
      intro field mem
      simpa using hwanted field mem
    simp only [Source.enter, bind, Except.bind, hnamed]
    by_cases hdeep : nesting.deepestMember parts ≤ inner
    · rw [if_pos hdeep, if_pos (by omega)]
      simp only [ObjectStop.read, hmissing]
      rfl
    · rw [if_neg hdeep, if_neg (by omega)]

/-! ## What any record is made of -/

theorem enter_text_ok (levels : Nat) (inner : Source)
    (h : (Source.text levels).enter = .ok inner) : ∃ left, levels = left + 1 ∧ inner = .text left := by
  cases levels with
  | zero => exact absurd h nofun
  | succ left => exact ⟨left, rfl, (Except.ok.inj h).symm⟩

theorem mismatch_ne_ok (wanted : String) (source : Source) (draft : Draft) (value : α) :
    mismatch wanted source draft ≠ .ok value := by
  intro h
  obtain ⟨_, -, hfault⟩ := (bind_eq_ok _ _ value).mp h
  exact absurd hfault nofun

theorem text_eq_ok_iff (source : Source) (draft : Draft) (s : String) :
    text source draft = .ok s ↔ ∃ t, draft = .text t ∧ t.read = .ok s := by
  cases draft with
  | text t => exact ⟨fun h => ⟨t, rfl, h⟩, fun ⟨_, hdraft, h⟩ => Draft.text.inj hdraft ▸ h⟩
  | _ => exact ⟨fun h => absurd h (mismatch_ne_ok _ source _ _), nofun⟩

theorem integer_eq_ok_iff (low high : Int) (wanted : String) (source : Source) (draft : Draft)
    (n : Int) :
    integer low high wanted source draft = .ok n ↔
      draft = .number (.ok (.integer n)) ∧ low ≤ n ∧ n ≤ high := by
  unfold integer
  split
  · rename_i m
    split
    · rename_i hrange
      rw [Bool.and_eq_true, decide_eq_true_eq, decide_eq_true_eq] at hrange
      constructor
      · intro h
        obtain rfl := Except.ok.inj h
        exact ⟨rfl, hrange⟩
      · rintro ⟨hdraft, -⟩
        cases hdraft
        rfl
    · rename_i hrange
      refine ⟨nofun, ?_⟩
      rintro ⟨hdraft, hlow, hhigh⟩
      cases hdraft
      exact absurd (by simp [hlow, hhigh]) hrange
  · rename_i hnone
    exact ⟨fun h => absurd h (mismatch_ne_ok _ source _ _), fun h => absurd h.1 (hnone n)⟩

theorem natural_eq_ok_iff (high : Nat) (wanted : String) (source : Source) (draft : Draft)
    (n : Nat) :
    natural high wanted source draft = .ok n ↔ draft = .number (.ok (.integer n)) ∧ n ≤ high := by
  have hmap : natural high wanted source draft = .ok n ↔
      ∃ m, integer 0 high wanted source draft = .ok m ∧ m.toNat = n := by
    unfold natural map
    cases integer 0 high wanted source draft <;> simp [Functor.map, Except.map]
  rw [hmap]
  constructor
  · rintro ⟨m, hread, rfl⟩
    obtain ⟨hdraft, hlow, hhigh⟩ := (integer_eq_ok_iff _ _ _ _ _ _).mp hread
    rw [Int.toNat_of_nonneg hlow]
    exact ⟨hdraft, by omega⟩
  · rintro ⟨hdraft, hhigh⟩
    exact ⟨n, (integer_eq_ok_iff _ _ _ _ _ _).mpr ⟨hdraft, by omega, by omega⟩, Int.toNat_natCast n⟩

theorem store_field_ok (name : String) (absence : Absence) (reader : Reader α) (put : α → σ → σ)
    (source : Source) (draft : Draft) (a b : σ)
    (h : (field name absence reader put).store source draft a = .ok b) :
    ∃ value, reader source draft = .ok value ∧ put value a = b := by
  obtain ⟨value, hvalue, hput⟩ := (bind_eq_ok _ _ b).mp h
  exact ⟨value, hvalue, Except.ok.inj hput⟩

theorem optional_ok (reader : Reader α) (source : Source) (draft : Draft) (value : α)
    (h : optional reader source draft = .ok (some value)) : reader source draft = .ok value := by
  unfold optional at h
  split at h
  case h_1 => exact absurd h nofun
  case h_2 =>
    cases hread : reader source draft with
    | error e => rw [hread] at h; exact absurd h nofun
    | ok x => rw [hread] at h; exact congrArg Except.ok (Option.some.inj (Except.ok.inj h))

theorem items_ok (reader : Reader α) (source : Source) (drafts : List Draft) (values : List α)
    (h : items reader source drafts = .ok values) :
    ∀ value ∈ values, ∃ draft, reader source draft = .ok value := by
  induction drafts generalizing values with
  | nil =>
    obtain rfl := Except.ok.inj h
    exact List.forall_mem_nil _
  | cons draft drafts ih =>
    obtain ⟨first, hfirst, h⟩ := (bind_eq_ok _ _ values).mp h
    obtain ⟨rest, hrest, h⟩ := (bind_eq_ok _ _ values).mp h
    obtain rfl := Except.ok.inj h
    exact List.forall_mem_cons.mpr ⟨⟨draft, hfirst⟩, ih rest hrest⟩

theorem list_ok (reader : Reader α) (source : Source) (draft : Draft) (values : List α)
    (h : list reader source draft = .ok values) :
    ∃ inner, source.enter = .ok inner ∧
      ∀ value ∈ values, ∃ draft, reader inner draft = .ok value := by
  unfold list at h
  split at h
  case h_1 found stop =>
    obtain ⟨inner, hinner, h⟩ := (bind_eq_ok _ _ values).mp h
    obtain ⟨read, hread, h⟩ := (bind_eq_ok _ _ values).mp h
    obtain ⟨_, -, h⟩ := (bind_eq_ok _ _ values).mp h
    obtain rfl := Except.ok.inj h
    exact ⟨inner, hinner, items_ok reader inner found read hread⟩
  case h_2 => exact absurd h (mismatch_ne_ok _ source _ values)

def Stores (fields : List (Member σ)) (source : Source) (a b : σ) : Prop :=
  ∃ field ∈ fields, ∃ draft, field.store source draft a = .ok b

variable (fields : List (Member σ)) (source : Source)

theorem stored_of_positional (title : String) (total length : Nat) (stop : ListStop) (index : Nat)
    (left : List (Member σ)) (items : List Draft) (a b : σ) (hleft : ∀ field ∈ left, field ∈ fields)
    (h : positional title total length source stop index left items a = .ok b) :
    Relation.ReflTransGen (Stores fields source) a b := by
  induction left generalizing index items a with
  | nil =>
    cases items with
    | nil =>
      have hsame : a = b := by
        cases source with
        | text levels =>
          obtain ⟨_, -, hresult⟩ := (bind_eq_ok _ _ b).mp h
          exact Except.ok.inj hresult
        | parsed => exact Except.ok.inj h
      rw [hsame]
    | cons item items => cases source <;> exact absurd h nofun
  | cons field left ih =>
    obtain ⟨hfield, hleft⟩ := List.forall_mem_cons.mp hleft
    cases items with
    | nil =>
      obtain ⟨_, -, h⟩ := (bind_eq_ok _ _ b).mp h
      split at h
      case isTrue => exact ih (index + 1) [] a hleft h
      case isFalse => exact absurd h nofun
    | cons item items =>
      obtain ⟨next, hstore, h⟩ := (bind_eq_ok _ _ b).mp h
      exact .head ⟨field, hfield, item, hstore⟩ (ih (index + 1) items next hleft h)

theorem stored_of_named (members : List (TextDraft × Draft)) (seen seen' : List String) (a b : σ)
    (h : named fields source seen members a = .ok (seen', b)) :
    Relation.ReflTransGen (Stores fields source) a b := by
  induction members generalizing seen a with
  | nil =>
    obtain ⟨-, rfl⟩ := Prod.mk.inj (Except.ok.inj h)
    exact .refl
  | cons member members ih =>
    obtain ⟨name, -, h⟩ := (bind_eq_ok _ _ _).mp h
    split at h
    case h_1 =>
      obtain ⟨_, -, h⟩ := (bind_eq_ok _ _ _).mp h
      exact ih seen a h
    case h_2 field hfind =>
      split at h
      case isTrue => exact absurd h nofun
      case isFalse =>
        obtain ⟨next, hstore, h⟩ := (bind_eq_ok _ _ _).mp h
        exact .head ⟨field, List.mem_of_find?_eq_some hfind, member.2, hstore⟩
          (ih (name :: seen) next h)

/-- A record that was read, from an object or from a list, has its fields stored one after another
one container further in. -/
theorem stored_of_record (name : String) (initial b : σ) (draft : Draft)
    (h : record name fields initial source draft = .ok b) :
    ∃ inner, source.enter = .ok inner ∧
      Relation.ReflTransGen (Stores fields inner) initial b := by
  unfold record at h
  split at h
  case h_1 found stop =>
    obtain ⟨inner, hinner, h⟩ := (bind_eq_ok _ _ b).mp h
    exact ⟨inner, hinner, stored_of_positional fields inner _ _ _ stop 0 fields found initial b
      (fun _ => id) h⟩
  case h_2 found stop =>
    obtain ⟨inner, hinner, h⟩ := (bind_eq_ok _ _ b).mp h
    obtain ⟨⟨seen, value⟩, hnamed, h⟩ := (bind_eq_ok _ _ b).mp h
    obtain ⟨_, -, h⟩ := (bind_eq_ok _ _ b).mp h
    split at h
    case h_1 => exact absurd h nofun
    case h_2 =>
      obtain rfl := Except.ok.inj h
      exact ⟨inner, hinner, stored_of_named fields inner found [] seen initial value hnamed⟩
  case h_3 =>
    obtain ⟨_, -, hfault⟩ := (bind_eq_ok _ _ b).mp h
    exact absurd hfault nofun

end RecordSelection.Json.Reader
