import Mathlib.Data.List.Nodup
import RecordSelection.Proofs.Json.Fields

/-!
# Records read field by field

What a record is read from when all of its fields may be left out. Written as an object it has each
field at most once, and what stands under other names is passed over; written as a list it has its
first fields in their own order. Either way each field is read from what stands for it alone, and
keeps its initial value when nothing does.
-/

set_option autoImplicit false

namespace RecordSelection.Json

theorem ListStop.read_eq_ok_iff (stop : ListStop) : stop.read = .ok () ↔ stop = .closed := by
  cases stop <;> simp [ListStop.read]

theorem ListStop.last_eq_ok_iff (stop : ListStop) : stop.last = .ok () ↔ stop = .closed := by
  cases stop with
  | commaFirst closing => cases closing <;> simp [ListStop.last]
  | _ => simp [ListStop.last]

theorem ObjectStop.read_eq_ok_iff (stop : ObjectStop) : stop.read = .ok () ↔ stop = .closed := by
  cases stop <;> simp [ObjectStop.read]

namespace Reader

variable {σ : Type}

def valuesOf (name : String) (entries : List (String × Draft)) : List Draft :=
  (entries.filter fun entry => entry.1 == name).map Prod.snd

theorem valuesOf_cons_self (name : String) (draft : Draft) (entries : List (String × Draft)) :
    valuesOf name ((name, draft) :: entries) = draft :: valuesOf name entries := by
  simp [valuesOf]

theorem valuesOf_cons_of_ne (name other : String) (draft : Draft)
    (entries : List (String × Draft)) (h : other ≠ name) :
    valuesOf name ((other, draft) :: entries) = valuesOf name entries := by
  simp [valuesOf, h]

theorem valuesOf_eq_nil (name : String) (entries : List (String × Draft))
    (h : ∀ entry ∈ entries, entry.1 ≠ name) : valuesOf name entries = [] := by
  rw [valuesOf, List.map_eq_nil_iff, List.filter_eq_nil_iff]
  exact fun entry hentry => by simpa using h entry hentry

theorem length_valuesOf_le_cons (name : String) (entry : String × Draft)
    (entries : List (String × Draft)) :
    (valuesOf name entries).length ≤ (valuesOf name (entry :: entries)).length := by
  rw [valuesOf, valuesOf, List.length_map, List.length_map]
  exact ((List.sublist_cons_self entry entries).filter _).length_le

/-! ## Entries stored one after another -/

def store (fields : List (Member σ)) (source : Source) (a : σ) (entry : String × Draft) :
    Except Fault σ :=
  match fields.find? (·.name == entry.1) with
  | some field => field.store source entry.2 a
  | none => do
    entry.2.skip
    return a

def Keyed (members : List (TextDraft × Draft)) (entries : List (String × Draft)) : Prop :=
  List.Forall₂ (fun member entry => member.1.read = .ok entry.1 ∧ member.2 = entry.2) members entries

variable (fields : List (Member σ)) (source : Source)

def met (seen : List String) (name : String) : List String :=
  match fields.find? (·.name == name) with
  | some _ => name :: seen
  | none => seen

def Fresh (seen : List String) (entries : List (String × Draft)) : Prop :=
  ∀ field ∈ fields, (valuesOf field.name entries).length ≤ if field.name ∈ seen then 0 else 1

theorem fresh_cons_iff (seen : List String) (name : String) (draft : Draft)
    (entries : List (String × Draft)) :
    Fresh fields seen ((name, draft) :: entries) ↔
      ((∃ field ∈ fields, field.name = name) → name ∉ seen) ∧
        Fresh fields (met fields seen name) entries := by
  unfold met
  split
  · rename_i field hfind
    obtain rfl : field.name = name := by simpa using List.find?_some hfind
    have hfield : field ∈ fields := List.mem_of_find?_eq_some hfind
    constructor
    · intro h
      have hself := h field hfield
      rw [valuesOf_cons_self, List.length_cons] at hself
      have hunseen : field.name ∉ seen := by
        intro hseen
        rw [if_pos hseen] at hself
        omega
      refine ⟨fun _ => hunseen, fun other hother => ?_⟩
      by_cases hsame : other.name = field.name
      · rw [if_neg hunseen] at hself
        rw [hsame, if_pos List.mem_cons_self]
        omega
      · have hrest := h other hother
        rw [valuesOf_cons_of_ne _ _ _ _ (Ne.symm hsame)] at hrest
        simpa [hsame] using hrest
    · rintro ⟨hunseen, h⟩ other hother
      have hrest := h other hother
      by_cases hsame : other.name = field.name
      · rw [hsame, if_pos List.mem_cons_self] at hrest
        rw [hsame, valuesOf_cons_self, List.length_cons, if_neg (hunseen ⟨field, hfield, rfl⟩)]
        omega
      · rw [valuesOf_cons_of_ne _ _ _ _ (Ne.symm hsame)]
        simpa [hsame] using hrest
  · rename_i hfind
    have hunknown : ∀ field ∈ fields, name ≠ field.name := by
      intro field hfield hsame
      exact absurd (List.find?_eq_none.mp hfind field hfield) (by simp [hsame])
    have hrest : Fresh fields seen ((name, draft) :: entries) ↔ Fresh fields seen entries :=
      forall₂_congr fun field hfield => by
        rw [valuesOf_cons_of_ne _ _ _ _ (hunknown field hfield)]
    rw [hrest]
    exact ⟨fun h => ⟨fun ⟨field, hfield, hname⟩ => absurd hname.symm (hunknown field hfield), h⟩,
      And.right⟩

theorem named_cons_ok_iff (seen : List String) (key : TextDraft) (draft : Draft)
    (members : List (TextDraft × Draft)) (a : σ) (result : List String × σ) :
    named fields source seen ((key, draft) :: members) a = .ok result ↔
      ∃ name, key.read = .ok name ∧ ((∃ field ∈ fields, field.name = name) → name ∉ seen) ∧
        ∃ next, store fields source a (name, draft) = .ok next ∧
          named fields source (met fields seen name) members next = .ok result := by
  rw [named, bind_eq_ok]
  refine exists_congr fun name => and_congr_right fun _ => ?_
  unfold met store
  cases hfind : fields.find? (·.name == name) with
  | none =>
    have hunknown : ¬∃ field ∈ fields, field.name = name := by
      rintro ⟨field, hfield, hname⟩
      exact List.find?_eq_none.mp hfind field hfield (beq_iff_eq.mpr hname)
    simp [hunknown, bind_eq_ok, pure, Except.pure]
  | some field =>
    have hknown : ∃ field ∈ fields, field.name = name :=
      ⟨field, List.mem_of_find?_eq_some hfind, by simpa using List.find?_some hfind⟩
    by_cases hseen : name ∈ seen
    · simp [hknown, hseen]
    · simp [hknown, hseen, bind_eq_ok]

/-- The members of an object are read in the order written: all keys can be read, no field is there
twice, and each entry can be stored. -/
theorem named_ok_iff (seen : List String) (members : List (TextDraft × Draft)) (a b : σ) :
    (∃ seen', named fields source seen members a = .ok (seen', b)) ↔
      ∃ entries, Keyed members entries ∧ Fresh fields seen entries ∧
        entries.foldlM (store fields source) a = .ok b := by
  induction members generalizing seen a with
  | nil =>
    have hfresh : Fresh fields seen [] := fun field _ => Nat.zero_le _
    simp [named, Keyed, hfresh, pure, Except.pure]
  | cons member members ih =>
    obtain ⟨key, draft⟩ := member
    simp only [named_cons_ok_iff, Keyed, List.forall₂_cons_left_iff]
    constructor
    · rintro ⟨seen', name, hname, hunseen, next, hstore, h⟩
      obtain ⟨entries, hkeyed, hfresh, hfold⟩ := (ih _ next).mp ⟨seen', h⟩
      refine ⟨_, ⟨(name, draft), entries, ⟨hname, rfl⟩, hkeyed, rfl⟩,
        (fresh_cons_iff fields seen name draft entries).mpr ⟨hunseen, hfresh⟩, ?_⟩
      rw [List.foldlM_cons, bind_eq_ok]
      exact ⟨next, hstore, hfold⟩
    · rintro ⟨_, ⟨⟨name, _⟩, entries, ⟨hname, rfl⟩, hkeyed, rfl⟩, hfresh, hfold⟩
      rw [List.foldlM_cons, bind_eq_ok] at hfold
      obtain ⟨next, hstore, hfold⟩ := hfold
      obtain ⟨hunseen, hfresh⟩ := (fresh_cons_iff fields seen name draft entries).mp hfresh
      obtain ⟨seen', h⟩ := (ih _ next).mpr ⟨entries, hkeyed, hfresh, hfold⟩
      exact ⟨seen', name, hname, hunseen, next, hstore, h⟩

theorem positional_ok_iff (title : String) (total length levels : Nat) (stop : ListStop)
    (index : Nat) (left : List (Member σ)) (items : List Draft) (a b : σ)
    (hleft : ∀ field ∈ left, field.absence = .defaulted ∧
      fields.find? (·.name == field.name) = some field) :
    positional title total length (.text levels) stop index left items a = .ok b ↔
      stop = .closed ∧ items.length ≤ left.length ∧
        ((left.map (·.name)).zip items).foldlM (store fields (.text levels)) a = .ok b := by
  induction left generalizing index items a with
  | nil =>
    cases items with
    | nil =>
      rw [positional, ← ListStop.last_eq_ok_iff, List.map_nil, List.zip_nil_right,
        List.foldlM_nil, bind_eq_ok, Unique.exists_iff]
      simp only [List.length_nil, Nat.le_refl, true_and]
    | cons item items => simp [positional]
  | cons field left ih =>
    obtain ⟨⟨hdefaulted, hfind⟩, hleft⟩ := List.forall_mem_cons.mp hleft
    cases items with
    | nil =>
      rw [positional, if_pos hdefaulted, List.zip_nil_right, List.foldlM_nil, bind_eq_ok,
        Unique.exists_iff, ih _ _ _ hleft, List.zip_nil_right, List.foldlM_nil]
      simp only [List.length_nil, Nat.zero_le, true_and]
      exact ⟨And.right, fun h => ⟨(ListStop.read_eq_ok_iff stop).mpr h.1, h⟩⟩
    | cons item items =>
      rw [positional, List.map_cons, List.zip_cons_cons, List.foldlM_cons]
      simp only [bind_eq_ok, ih _ _ _ hleft, store, hfind, List.length_cons,
        Nat.add_le_add_iff_right]
      constructor
      · rintro ⟨next, hstore, hstop, henough, hfold⟩
        exact ⟨hstop, henough, next, hstore, hfold⟩
      · rintro ⟨hstop, henough, next, hstore, hfold⟩
        exact ⟨next, hstore, hstop, henough, hfold⟩

/-! ## Fields that do not touch each other -/

structure Slot (σ : Type) where
  value : Type
  name : String
  reader : Reader value
  get : σ → value
  put : value → σ → σ

namespace Slot

def member (slot : Slot σ) : Member σ := field slot.name .defaulted slot.reader slot.put

/-- Slots of different names that make up the record, each of which leaves the others alone. -/
structure Separate (slots : List (Slot σ)) : Prop where
  distinct : (slots.map (·.name)).Nodup
  get_put : ∀ slot ∈ slots, ∀ value a, slot.get (slot.put value a) = value
  get_put_of_ne : ∀ slot ∈ slots, ∀ other ∈ slots, slot.name ≠ other.name →
    ∀ value a, other.get (slot.put value a) = other.get a
  ext : ∀ a b, (∀ slot ∈ slots, slot.get a = slot.get b) → a = b

variable {slots : List (Slot σ)}

theorem names_member (slots : List (Slot σ)) :
    (slots.map member).map (·.name) = slots.map (·.name) := by
  rw [List.map_map]
  rfl

theorem find_member (h : Separate slots) (slot : Slot σ) (hslot : slot ∈ slots) :
    (slots.map member).find? (·.name == slot.name) = some slot.member := by
  cases hfind : (slots.map member).find? (·.name == slot.name) with
  | none =>
    have hnone := List.find?_eq_none.mp hfind slot.member (List.mem_map_of_mem hslot)
    exact absurd (beq_self_eq_true slot.name) hnone
  | some field =>
    obtain ⟨other, hother, rfl⟩ := List.mem_map.mp (List.mem_of_find?_eq_some hfind)
    have hname : (other.member.name == slot.name) = true :=
      List.find?_some (p := fun field : Member σ => field.name == slot.name) hfind
    have hsame : other.name = slot.name := beq_iff_eq.mp hname
    rw [List.inj_on_of_nodup_map h.distinct hother hslot hsame]

theorem find_member_eq_none_iff (slots : List (Slot σ)) (name : String) :
    (slots.map member).find? (·.name == name) = none ↔ name ∉ slots.map (·.name) := by
  rw [List.find?_eq_none, ← names_member, List.mem_map]
  simp only [beq_iff_eq, not_exists, not_and]

variable (levels : Nat)

theorem store_of_known (h : Separate slots) (slot : Slot σ) (hslot : slot ∈ slots) (draft : Draft)
    (a next : σ) :
    store (slots.map member) (.text levels) a (slot.name, draft) = .ok next ↔
      ∃ value, slot.reader (.text levels) draft = .ok value ∧ slot.put value a = next := by
  simp only [store, find_member h slot hslot]
  change slot.reader (.text levels) draft >>= (fun value => pure (slot.put value a)) = _ ↔ _
  simp only [bind_eq_ok, pure, Except.pure, Except.ok.injEq]

theorem store_of_unknown (entry : String × Draft) (hentry : entry.1 ∉ slots.map (·.name))
    (a next : σ) :
    store (slots.map member) (.text levels) a entry = .ok next ↔
      entry.2.skip = .ok () ∧ a = next := by
  simp only [store, (find_member_eq_none_iff slots entry.1).mpr hentry, bind_eq_ok,
    Unique.exists_iff, pure, Except.pure, Except.ok.injEq]

end Slot

open Slot

/-- What stands for a field gives its value: none does and the value is the one it had before, or
one does and is read. -/
def Given {α : Type} (reads : Draft → α → Prop) (before : α) : List Draft → α → Prop
  | [], value => value = before
  | [draft], value => reads draft value
  | _ :: _ :: _, _ => False

def Slot.Filled (slot : Slot σ) (levels : Nat) (entries : List (String × Draft)) (a b : σ) : Prop :=
  Given (fun draft value => slot.reader (.text levels) draft = .ok value) (slot.get a)
    (valuesOf slot.name entries) (slot.get b)

theorem Slot.Filled.at_most_once {slot : Slot σ} {levels : Nat} {entries : List (String × Draft)}
    {a b : σ} (h : slot.Filled levels entries a b) :
    (valuesOf slot.name entries).length ≤ 1 := by
  unfold Filled at h
  match valuesOf slot.name entries, h with
  | [], _ => exact Nat.zero_le 1
  | [_], _ => exact Nat.le_refl 1

variable {slots : List (Slot σ)} (levels : Nat)

theorem filled_of_put (h : Separate slots) (slot : Slot σ) (hslot : slot ∈ slots) (draft : Draft)
    (entries : List (String × Draft)) (honly : valuesOf slot.name entries = []) (a b : σ) :
    (∃ value, slot.reader (.text levels) draft = .ok value ∧
      ∀ other ∈ slots, other.Filled levels entries (slot.put value a) b) ↔
    ∀ other ∈ slots, other.Filled levels ((slot.name, draft) :: entries) a b := by
  have hself : ∀ value, slot.Filled levels entries (slot.put value a) b ↔ slot.get b = value := by
    intro value
    rw [Filled, honly, h.get_put slot hslot]
    rfl
  have hread : slot.Filled levels ((slot.name, draft) :: entries) a b ↔
      slot.reader (.text levels) draft = .ok (slot.get b) := by
    rw [Filled, valuesOf_cons_self, honly]
    rfl
  have hother : ∀ other ∈ slots, slot.name ≠ other.name → ∀ value,
      (other.Filled levels entries (slot.put value a) b ↔
        other.Filled levels ((slot.name, draft) :: entries) a b) := by
    intro other hmem hne value
    rw [Filled, Filled, h.get_put_of_ne slot hslot other hmem hne,
      valuesOf_cons_of_ne _ _ _ _ hne]
  constructor
  · rintro ⟨value, hvalue, hfilled⟩ other hmem
    by_cases hne : slot.name = other.name
    · obtain rfl := List.inj_on_of_nodup_map h.distinct hslot hmem hne
      rw [hread, (hself value).mp (hfilled slot hslot)]
      exact hvalue
    · exact (hother other hmem hne value).mp (hfilled other hmem)
  · intro hfilled
    refine ⟨slot.get b, hread.mp (hfilled slot hslot), fun other hmem => ?_⟩
    by_cases hne : slot.name = other.name
    · obtain rfl := List.inj_on_of_nodup_map h.distinct hslot hmem hne
      exact (hself _).mpr rfl
    · exact (hother other hmem hne _).mpr (hfilled other hmem)

theorem filled_of_unknown (name : String) (draft : Draft) (entries : List (String × Draft))
    (hname : name ∉ slots.map (·.name)) (a b : σ) :
    (∀ slot ∈ slots, slot.Filled levels ((name, draft) :: entries) a b) ↔
      ∀ slot ∈ slots, slot.Filled levels entries a b := by
  refine forall₂_congr fun slot hslot => ?_
  have hne : name ≠ slot.name := fun hsame => hname (hsame ▸ List.mem_map_of_mem hslot)
  rw [Filled, Filled, valuesOf_cons_of_ne _ _ _ _ hne]

theorem foldlM_store_eq_ok_iff (h : Separate slots) (entries : List (String × Draft)) (a b : σ)
    (honce : ∀ slot ∈ slots, (valuesOf slot.name entries).length ≤ 1) :
    entries.foldlM (store (slots.map member) (.text levels)) a = .ok b ↔
      (∀ slot ∈ slots, slot.Filled levels entries a b) ∧
      ∀ entry ∈ entries, entry.1 ∉ slots.map (·.name) → entry.2.skip = .ok () := by
  induction entries generalizing a with
  | nil =>
    simp only [List.foldlM_nil, pure, Except.pure, Except.ok.injEq, List.not_mem_nil,
      false_implies, implies_true, and_true]
    exact ⟨fun hab slot _ => congrArg slot.get hab.symm, fun hab => h.ext a b fun slot hslot =>
      Eq.symm (hab slot hslot)⟩
  | cons entry entries ih =>
    obtain ⟨name, draft⟩ := entry
    have honceLeft : ∀ slot ∈ slots, (valuesOf slot.name entries).length ≤ 1 := fun slot hslot =>
      (length_valuesOf_le_cons _ _ _).trans (honce slot hslot)
    rw [List.foldlM_cons, bind_eq_ok, List.forall_mem_cons]
    by_cases hname : name ∈ slots.map (·.name)
    · obtain ⟨slot, hslot, rfl⟩ := List.mem_map.mp hname
      have honly : valuesOf slot.name entries = [] := by
        have hlength := honce slot hslot
        rw [valuesOf_cons_self, List.length_cons] at hlength
        exact List.length_eq_zero_iff.mp (by omega)
      rw [← filled_of_put levels h slot hslot draft entries honly a b]
      constructor
      · rintro ⟨next, hstore, hfold⟩
        obtain ⟨value, hread, rfl⟩ := (store_of_known levels h slot hslot draft a next).mp hstore
        obtain ⟨hfilled, hpassed⟩ := (ih _ honceLeft).mp hfold
        exact ⟨⟨value, hread, hfilled⟩, fun hunknown => absurd hname hunknown, hpassed⟩
      · rintro ⟨⟨value, hread, hfilled⟩, -, hpassed⟩
        exact ⟨_, (store_of_known levels h slot hslot draft a _).mpr ⟨value, hread, rfl⟩,
          (ih _ honceLeft).mpr ⟨hfilled, hpassed⟩⟩
    · rw [filled_of_unknown levels name draft entries hname]
      simp only [store_of_unknown levels (name, draft) hname]
      constructor
      · rintro ⟨_, ⟨hskip, rfl⟩, hfold⟩
        obtain ⟨hfilled, hpassed⟩ := (ih _ honceLeft).mp hfold
        exact ⟨hfilled, fun _ => hskip, hpassed⟩
      · rintro ⟨hfilled, hskip, hpassed⟩
        exact ⟨a, ⟨hskip hname, rfl⟩, (ih a honceLeft).mpr ⟨hfilled, hpassed⟩⟩

/-! ## The two forms of a record -/

/-- What is written under which name: in an object the entries themselves, of which those of other
names can be passed over; in a list the items under the names of the record, in their order. -/
inductive Written (names : List String) : Draft → List (String × Draft) → Prop where
  | object {members : List (TextDraft × Draft)} {entries : List (String × Draft)}
      (keyed : Keyed members entries)
      (passed : ∀ entry ∈ entries, entry.1 ∉ names → entry.2.skip = .ok ()) :
      Written names (.object members .closed) entries
  | list {items : List Draft} (enough : items.length ≤ names.length) :
      Written names (.list items .closed) (names.zip items)

theorem length_valuesOf_zip_le_one (name : String) (names : List String) (items : List Draft)
    (h : names.Nodup) : (valuesOf name (names.zip items)).length ≤ 1 := by
  induction names generalizing items with
  | nil => exact Nat.zero_le 1
  | cons first names ih =>
    obtain ⟨hfirst, hrest⟩ := List.nodup_cons.mp h
    cases items with
    | nil => exact Nat.zero_le 1
    | cons item items =>
      rw [List.zip_cons_cons]
      by_cases hsame : first = name
      · have hnone : valuesOf name (names.zip items) = [] := by
          refine valuesOf_eq_nil _ _ fun entry hentry hname => hfirst ?_
          rw [hsame, ← hname]
          exact (List.of_mem_zip hentry).1
        rw [← hsame, valuesOf_cons_self, hsame, hnone]
        exact Nat.le_refl 1
      · rw [valuesOf_cons_of_ne _ _ _ _ hsame]
        exact ih items hrest

theorem find_wanted_eq_none (slots : List (Slot σ)) (seen : List String) :
    (slots.map member).find? (fun field => field.absence = .wanted && !seen.contains field.name) =
      none := by
  rw [List.find?_eq_none]
  intro field hfield
  obtain ⟨slot, -, rfl⟩ := List.mem_map.mp hfield
  simp [member, field]

theorem record_list_ok_iff (name : String) (h : Separate slots) (initial b : σ)
    (items : List Draft) (stop : ListStop) :
    record name (slots.map member) initial (.text (levels + 1)) (.list items stop) = .ok b ↔
      stop = .closed ∧ items.length ≤ (slots.map (·.name)).length ∧
        ∀ slot ∈ slots, slot.Filled levels ((slots.map (·.name)).zip items) initial b := by
  have hleft : ∀ field ∈ slots.map member, field.absence = .defaulted ∧
      (slots.map member).find? (·.name == field.name) = some field := by
    intro field hfield
    obtain ⟨slot, hslot, rfl⟩ := List.mem_map.mp hfield
    exact ⟨rfl, find_member h slot hslot⟩
  have hknown : ∀ entry ∈ (slots.map (·.name)).zip items, entry.1 ∉ slots.map (·.name) →
      entry.2.skip = .ok () := fun entry hentry hunknown =>
    absurd (List.of_mem_zip hentry).1 hunknown
  have hrecord : record name (slots.map member) initial (.text (levels + 1)) (.list items stop) =
      positional ("struct " ++ name) (slots.map member).length items.length (.text levels) stop 0
        (slots.map member) items initial := rfl
  rw [hrecord, positional_ok_iff _ _ _ _ _ _ _ _ _ _ _ hleft, names_member,
    foldlM_store_eq_ok_iff levels h _ _ _ fun slot _ =>
      length_valuesOf_zip_le_one slot.name _ items h.distinct,
    List.length_map, List.length_map]
  constructor
  · rintro ⟨hstop, henough, hfilled, -⟩
    exact ⟨hstop, henough, hfilled⟩
  · rintro ⟨hstop, henough, hfilled⟩
    exact ⟨hstop, henough, hfilled, hknown⟩

theorem record_object_ok_iff (name : String) (h : Separate slots) (initial b : σ)
    (members : List (TextDraft × Draft)) (stop : ObjectStop) :
    record name (slots.map member) initial (.text (levels + 1)) (.object members stop) = .ok b ↔
      stop = .closed ∧ ∃ entries, Keyed members entries ∧
        (∀ slot ∈ slots, slot.Filled levels entries initial b) ∧
        ∀ entry ∈ entries, entry.1 ∉ slots.map (·.name) → entry.2.skip = .ok () := by
  have hrecord :
      record name (slots.map member) initial (.text (levels + 1)) (.object members stop) = .ok b ↔
        (∃ seen, named (slots.map member) (.text levels) [] members initial = .ok (seen, b)) ∧
          stop.read = .ok () := by
    unfold record
    simp only [Source.enter, bind_eq_ok, Except.ok.injEq, exists_eq_left', Prod.exists,
      find_wanted_eq_none, pure, Except.pure, Unique.exists_iff]
    constructor
    · rintro ⟨seen, value, hnamed, hstop, rfl⟩
      exact ⟨⟨seen, hnamed⟩, hstop⟩
    · rintro ⟨⟨seen, hnamed⟩, hstop⟩
      exact ⟨seen, b, hnamed, hstop, rfl⟩
  rw [hrecord, named_ok_iff, ObjectStop.read_eq_ok_iff, and_comm]
  refine and_congr_right fun _ => exists_congr fun entries => and_congr_right fun _ => ?_
  have hfresh : Fresh (slots.map member) [] entries ↔
      ∀ slot ∈ slots, (valuesOf slot.name entries).length ≤ 1 := by
    simp [Fresh, member, field]
  rw [hfresh]
  constructor
  · rintro ⟨honce, hfold⟩
    exact (foldlM_store_eq_ok_iff levels h entries initial b honce).mp hfold
  · intro hfilled
    have honce : ∀ slot ∈ slots, (valuesOf slot.name entries).length ≤ 1 := fun slot hslot =>
      (hfilled.1 slot hslot).at_most_once
    exact ⟨honce, (foldlM_store_eq_ok_iff levels h entries initial b honce).mpr hfilled⟩

/-- A record of slots that may all be left out is read exactly when it is written in one of the two
forms and each slot is filled. -/
theorem record_ok_iff (name : String) (h : Separate slots) (initial b : σ) (draft : Draft) :
    record name (slots.map member) initial (.text (levels + 1)) draft = .ok b ↔
      ∃ entries, Written (slots.map (·.name)) draft entries ∧
        ∀ slot ∈ slots, slot.Filled levels entries initial b := by
  constructor
  · intro hread
    cases draft with
    | list items stop =>
      obtain ⟨rfl, henough, hfilled⟩ :=
        (record_list_ok_iff levels name h initial b items stop).mp hread
      exact ⟨_, .list henough, hfilled⟩
    | object members stop =>
      obtain ⟨rfl, entries, hkeyed, hfilled, hpassed⟩ :=
        (record_object_ok_iff levels name h initial b members stop).mp hread
      exact ⟨entries, .object hkeyed hpassed, hfilled⟩
    | _ => exact absurd hread (mismatch_ne_ok _ (.text levels) _ _)
  · rintro ⟨entries, hwritten, hfilled⟩
    cases hwritten with
    | object keyed passed =>
      exact (record_object_ok_iff levels name h initial b _ _).mpr
        ⟨rfl, entries, keyed, hfilled, passed⟩
    | list enough =>
      exact (record_list_ok_iff levels name h initial b _ _).mpr ⟨rfl, enough, hfilled⟩

end Reader

end RecordSelection.Json
