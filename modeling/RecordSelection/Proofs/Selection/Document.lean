import RecordSelection.Proofs.Json.Fields
import RecordSelection.Selection.Document

/-!
# Selections as texts

What is written of a selection is read back as the same selection, as long as the text stays within
the levels of a text; nested deeper it is refused as too deep. A selection that came out of a text,
in whatever form it was written there, stays within them.
-/

set_option autoImplicit false

namespace RecordSelection.Selection

def expansion (s : Selection) : Option (List Selection) :=
  if s.expand = [] then none else some s.expand

theorem getD_expansion (s : Selection) : s.expansion.getD [] = s.expand := by
  unfold expansion
  split <;> simp_all

def childrenJson (children : List Selection) : Json := .list (children.map toJson)

def parts (s : Selection) : List (String × Json) :=
  [("key", .text s.key)] ++ Json.optional "fields" Json.texts s.fields ++
    Json.optional "expand" childrenJson s.expansion ++
    Json.optional "sort" .text s.sort ++ Json.optional "filter" .text s.filter ++
    Json.optional "requestKey" .text s.requestKey

theorem allToJson_eq (children : List Selection) : allToJson children = children.map toJson := by
  induction children with
  | nil => rfl
  | cons c rest ih => rw [allToJson, ih, List.map_cons]

theorem toJson_eq (s : Selection) : s.toJson = .object s.parts := by
  obtain ⟨key, fields, expand, sort, filter, requestKey⟩ := s
  cases expand with
  | nil => rfl
  | cons child rest =>
    rw [toJson, allToJson_eq]
    rfl

/-! ## Nesting -/

theorem nesting_eq (s : Selection) :
    s.nesting = 1 + max (if s.fields.isSome then 1 else 0)
      (if s.expand = [] then 0 else 1 + nesting.deepest s.expand) := by
  obtain ⟨key, fields, expand, sort, filter, requestKey⟩ := s
  cases expand <;> rfl

theorem deepest_le_iff (children : List Selection) (levels : Nat) :
    nesting.deepest children ≤ levels ↔ ∀ c ∈ children, c.nesting ≤ levels := by
  induction children with
  | nil => simp [nesting.deepest]
  | cons c rest ih => rw [nesting.deepest, Nat.max_le, ih, List.forall_mem_cons]

/-- The list of fields is a container within the node, and so is the list of the children, which
go within that. -/
theorem nesting_le_iff (s : Selection) (levels : Nat) :
    s.nesting ≤ levels + 1 ↔
      (s.fields.isSome → 0 < levels) ∧ ∀ c ∈ s.expand, c.nesting < levels := by
  have hfields : (if s.fields.isSome then 1 else 0) ≤ levels ↔
      (s.fields.isSome → 0 < levels) := by
    split <;> simp_all [Nat.succ_le_iff]
  have hchildren : (if s.expand = [] then 0 else 1 + nesting.deepest s.expand) ≤ levels ↔
      ∀ c ∈ s.expand, c.nesting < levels := by
    split
    case isTrue hnone => simp [hnone]
    case isFalse hsome =>
      cases levels with
      | zero => simpa using List.exists_mem_of_ne_nil s.expand hsome
      | succ inner =>
        rw [Nat.add_comm, Nat.add_le_add_iff_right, deepest_le_iff]
        simp only [Nat.lt_succ_iff]
  rw [nesting_eq, Nat.add_comm, Nat.add_le_add_iff_right, Nat.max_le, hfields, hchildren]

theorem deepestMember_append (members more : List (String × Json)) :
    Json.nesting.deepestMember (members ++ more) =
      max (Json.nesting.deepestMember members) (Json.nesting.deepestMember more) := by
  induction members with
  | nil => simp [Json.nesting.deepestMember]
  | cons member members ih =>
    rw [List.cons_append, Json.nesting.deepestMember, Json.nesting.deepestMember, ih,
      Nat.max_assoc]

theorem deepest_texts (texts : List String) : Json.nesting.deepest (texts.map .text) = 0 := by
  induction texts with
  | nil => rfl
  | cons text rest ih => rw [List.map_cons, Json.nesting.deepest, ih]; rfl

theorem deepest_toJson (children : List Selection)
    (h : ∀ c ∈ children, c.toJson.nesting = c.nesting) :
    Json.nesting.deepest (children.map toJson) = nesting.deepest children := by
  induction children with
  | nil => rfl
  | cons c rest ih =>
    obtain ⟨hfirst, hrest⟩ := List.forall_mem_cons.mp h
    rw [List.map_cons, Json.nesting.deepest, nesting.deepest, hfirst, ih hrest]

theorem nesting_toJson (s : Selection) : s.toJson.nesting = s.nesting := by
  induction s using induct with
  | node s ih =>
    have htext : ∀ name value, Json.nesting.deepestMember
        (Json.optional name .text value) = 0 := by
      intro name value
      cases value <;> rfl
    have hfields : Json.nesting.deepestMember (Json.optional "fields" Json.texts s.fields) =
        if s.fields.isSome then 1 else 0 := by
      cases s.fields with
      | none => rfl
      | some fields =>
        simp [Json.optional, Json.nesting.deepestMember, Json.texts, Json.nesting, deepest_texts]
    have hexpand : Json.nesting.deepestMember (Json.optional "expand" childrenJson s.expansion) =
        if s.expand = [] then 0 else 1 + nesting.deepest s.expand := by
      unfold expansion
      split
      · rfl
      · simp [Json.optional, Json.nesting.deepestMember, childrenJson, Json.nesting,
          deepest_toJson s.expand ih]
    rw [toJson_eq, nesting_eq, Json.nesting, parts]
    simp only [deepestMember_append, htext, hfields, hexpand]
    simp [Json.nesting.deepestMember, Json.nesting]

/-! ## Reading -/

theorem mem_expansion (s : Selection) (children : List Selection) (h : children ∈ s.expansion) :
    children = s.expand := by
  unfold expansion at h
  split at h
  · exact absurd h nofun
  · exact (Option.some.inj h).symm

open Json.Reader in
theorem fills_parts (child : Json.Reader Selection) (levels : Nat) (s : Selection)
    (h : ∀ inner < levels, ∀ c ∈ s.expand, ReadsAt child inner c.toJson c) :
    Fills (members child) levels (ofKey "") s.parts s := by
  have htext : ∀ v, Json.text v ≠ .null ∧ ReadsAt text levels (.text v) v :=
    fun v => ⟨nofun, readsAt_text levels v⟩
  obtain ⟨key, fields, expand, sort, filter, requestKey⟩ := s
  have hkey := Fills.single (members child) levels "key" rfl (ofKey "") (.text key) key
    (readsAt_text levels key)
  have hfields := Fills.optional (members child) levels "fields" rfl { key } Json.texts fields rfl
    fun names _ => ⟨nofun, readsAt_list text levels .text names
      fun inner _ name _ => readsAt_text inner name⟩
  have hexpand := Fills.optional (members child) levels "expand" rfl { key, fields }
    childrenJson (expansion ⟨key, fields, expand, sort, filter, requestKey⟩) rfl
    fun children hchildren => ⟨nofun, readsAt_list child levels toJson children
      (mem_expansion _ children hchildren ▸ h)⟩
  rw [getD_expansion] at hexpand
  have hsort := Fills.optional (members child) levels "sort" rfl { key, fields, expand } .text
    sort rfl fun v _ => htext v
  have hfilter := Fills.optional (members child) levels "filter" rfl
    { key, fields, expand, sort } .text filter rfl fun v _ => htext v
  have hrequestKey := Fills.optional (members child) levels "requestKey" rfl
    { key, fields, expand, sort, filter } .text requestKey rfl fun v _ => htext v
  exact ((((hkey.append hfields).append hexpand).append hsort).append hfilter).append
    hrequestKey

theorem names_optional {α : Type} (name : String) (write : α → Json) (value : Option α) :
    ((Json.optional name write value).map Prod.fst).Sublist [name] := by
  cases value with
  | none => exact List.nil_sublist _
  | some x => exact List.Sublist.refl _

theorem names_parts (s : Selection) : (s.parts.map Prod.fst).Sublist
    ["key", "fields", "expand", "sort", "filter", "requestKey"] := by
  simp only [parts, List.map_append]
  exact (((((List.Sublist.refl ["key"]).append (names_optional "fields" _ _)).append
    (names_optional "expand" _ _)).append (names_optional "sort" _ _)).append
    (names_optional "filter" _ _)).append (names_optional "requestKey" _ _)

/-- What is written of a tree is read back by a reader of enough levels. -/
theorem readsAt_toJson (s : Selection) (most levels : Nat) (h : levels < most) :
    Json.Reader.ReadsAt (reader most) levels s.toJson s := by
  induction s using induct generalizing most levels with
  | node s ih =>
    cases most with
    | zero => exact absurd h (Nat.not_lt_zero levels)
    | succ most =>
      have hfills : ∀ inner < levels,
          Json.Reader.Fills (members (reader most)) inner (ofKey "") s.parts s :=
        fun inner hinner => fills_parts _ inner s fun deeper hdeeper c hc =>
          ih c hc most deeper (by omega)
      have hdistinct : (s.parts.map Prod.fst).Nodup := (names_parts s).nodup (by decide)
      rw [toJson_eq]
      refine Json.Reader.readsAt_record "SelectionNode" _ (ofKey "") s levels s.parts hfills
        hdistinct ?_
      -- the key is the one field that is wanted
      intro field hfield hwanted
      simp only [members, List.mem_cons, List.not_mem_nil, or_false] at hfield
      rcases hfield with rfl | rfl | rfl | rfl | rfl | rfl
      · simp [parts, Json.Reader.field]
      all_goals exact absurd hwanted (by simp [Json.Reader.field])

open Json.Reader in
theorem nesting_of_stores (child : Json.Reader Selection) (levels : Nat) (a b : Selection)
    (hchild : ∀ inner draft c, child (.text inner) draft = .ok c → c.nesting ≤ inner)
    (h : Stores (members child) (.text levels) a b) (ha : a.nesting ≤ levels + 1) :
    b.nesting ≤ levels + 1 := by
  obtain ⟨field, hfield, draft, hstore⟩ := h
  rw [nesting_le_iff] at ha ⊢
  simp only [members, List.mem_cons, List.not_mem_nil, or_false] at hfield
  -- only the list of fields and the children take containers, each one of their own
  rcases hfield with rfl | rfl | rfl | hpassed
  · obtain ⟨value, -, rfl⟩ := store_field_ok _ _ _ _ _ _ _ _ hstore
    exact ha
  · obtain ⟨value, hvalue, rfl⟩ := store_field_ok _ _ _ _ _ _ _ _ hstore
    refine ⟨fun hsome => ?_, ha.2⟩
    obtain ⟨names, rfl⟩ := Option.isSome_iff_exists.mp hsome
    obtain ⟨inner, hinner, -⟩ := list_ok _ _ _ _ (optional_ok _ _ _ _ hvalue)
    obtain ⟨left, rfl, -⟩ := enter_text_ok levels inner hinner
    exact left.succ_pos
  · obtain ⟨value, hvalue, rfl⟩ := store_field_ok _ _ _ _ _ _ _ _ hstore
    refine ⟨ha.1, fun c hc => ?_⟩
    cases value with
    | none => exact absurd hc List.not_mem_nil
    | some children =>
      obtain ⟨inner, hinner, hitems⟩ := list_ok _ _ _ _ (optional_ok _ _ _ _ hvalue)
      obtain ⟨left, rfl, rfl⟩ := enter_text_ok levels inner hinner
      obtain ⟨item, hitem⟩ := hitems c hc
      exact Nat.lt_succ_of_le (hchild left item c hitem)
  · rcases hpassed with rfl | rfl | rfl
    all_goals
      obtain ⟨value, -, rfl⟩ := store_field_ok _ _ _ _ _ _ _ _ hstore
      exact ha

theorem nesting_of_reader (most levels : Nat) (draft : Json.Draft) (s : Selection)
    (h : reader most (.text levels) draft = .ok s) : s.nesting ≤ levels := by
  induction most generalizing levels draft s with
  | zero => exact absurd h nofun
  | succ most ih =>
    obtain ⟨inner, hinner, hstored⟩ := Json.Reader.stored_of_record _ _ _ _ _ _ h
    obtain ⟨left, rfl, rfl⟩ := Json.Reader.enter_text_ok levels inner hinner
    clear h
    -- the nodes below are covered by the levels of the reader, the node itself by what was stored
    induction hstored with
    | refl => exact Nat.le_add_left 1 left
    | tail _ hstep hbefore => exact nesting_of_stores (reader most) left _ _ ih hstep hbefore

/-! ## Whole texts -/

open Json.Numberless in
theorem numberless_toJson (s : Selection) : s.toJson.Numberless := by
  induction s using induct with
  | node s ih =>
    have htext : ∀ name value, NumberlessMembers (Json.optional name .text value) :=
      fun name value => members_optional name .text value fun _ _ => trivial
    have hfields : NumberlessMembers (Json.optional "fields" Json.texts s.fields) :=
      members_optional _ _ _ fun names _ =>
        (items_iff _).mpr (List.forall_mem_map.mpr fun _ _ => trivial)
    have hexpand : NumberlessMembers (Json.optional "expand" childrenJson s.expansion) :=
      members_optional _ _ _ fun children hchildren =>
        (items_iff _).mpr (List.forall_mem_map.mpr (mem_expansion s children hchildren ▸ ih))
    rw [toJson_eq, Json.Numberless, parts]
    simp only [members_append]
    exact ⟨⟨⟨⟨⟨⟨trivial, trivial⟩, hfields⟩, hexpand⟩, htext _ _⟩, htext _ _⟩, htext _ _⟩

theorem read_write (s : Selection) :
    read s.write = if s.nesting ≤ Json.maxNesting then .ok s else .error .tooDeep := by
  have hreads := s.readsAt_toJson (Json.maxNesting + 1) Json.maxNesting (Nat.lt_succ_self _)
  rw [Json.Reader.ReadsAt, nesting_toJson] at hreads
  rw [read, write, Json.read, Json.Scan.document_render s.toJson s.numberless_toJson]
  simp only [hreads]
  split <;> rfl

theorem nesting_of_read (t : String) (s : Selection) (h : read t = .ok s) :
    s.nesting ≤ Json.maxNesting := by
  obtain ⟨value, hvalue, h⟩ := (bind_eq_ok _ _ s).mp h
  split at h
  case isTrue => exact absurd h nofun
  case isFalse =>
    obtain rfl := Except.ok.inj h
    exact nesting_of_reader _ _ _ value hvalue

/-- A selection is read back from what is written of it if it is nested within the levels of a
text, and refused as too deep otherwise; what was read from any text is nested within them. -/
theorem written_reads_back :
    (∀ s : Selection, read s.write = if s.nesting ≤ 127 then .ok s else .error .tooDeep) ∧
      ∀ (t : String) (s : Selection), read t = .ok s → read s.write = .ok s :=
  ⟨read_write, fun t s h => (read_write s).trans (if_pos (nesting_of_read t s h))⟩

/-- A list with an escape, a null and an unknown key is read, and what is written of the result is
read again. A chain of 64 nodes is just short enough, unless the last of them lists fields. -/
theorem written_reads_back_chain :
    let t := "[\"p\\u0061\",null,[\x7b\"key\":\"a\",\"x\":[],\"expand\":null\x7d]]"
    let s : Selection := { key := "pa", expand := [{ key := "a" }] }
    let chain (fields : Option (List String)) : Selection :=
      Nat.repeat (fun child => { key := "a", expand := [child] }) 63 { key := "a", fields }
    read t = .ok s ∧ read s.write = .ok s ∧
      read (chain none).write = .ok (chain none) ∧
      read (chain (some [])).write = .error .tooDeep := by
  intro t s chain
  have hread : read t = .ok s := by decide +kernel
  have hshort : (chain none).nesting ≤ 127 := by decide +kernel
  have hlong : ¬(chain (some [])).nesting ≤ 127 := by decide +kernel
  obtain ⟨hwritten, hagain⟩ := written_reads_back
  refine ⟨hread, hagain t s hread, ?_, ?_⟩
  · rw [hwritten, if_pos hshort]
  · rw [hwritten, if_neg hlong]

end RecordSelection.Selection
