import RecordSelection.Proofs.Text.Parts
import RecordSelection.Selection.Walk

/-!
# Paths of fields

One entry of the parameter that names the wanted fields: a chain of relations, and what is wanted
at its end. Entries are separated by commas, and an empty entry wants nothing. Reading inverts
writing for paths over plain names, so that no text stands for two of them.
-/

set_option autoImplicit false

namespace RecordSelection

/-- Not empty, not the word that begins a relation, and without the characters that have a meaning
in a path. -/
def isPlainName (name : String) : Bool :=
  name ≠ "" && name ≠ "expand" && name.toList.all fun c => c ≠ ',' && c ≠ '.' && c ≠ '*'

theorem isPlainName_iff (name : String) :
    isPlainName name = true ↔
      name ≠ "" ∧ name ≠ "expand" ∧ ∀ c ∈ name.toList, c ≠ ',' ∧ c ≠ '.' ∧ c ≠ '*' := by
  simp [isPlainName, and_assoc]

theorem notMem_of_plain (name : String) (h : isPlainName name = true) :
    '.' ∉ name.toList ∧ ',' ∉ name.toList := by
  have hc := ((isPlainName_iff name).mp h).2.2
  exact ⟨fun hdot => (hc _ hdot).2.1 rfl, fun hcomma => (hc _ hcomma).1 rfl⟩

theorem ne_star_of_plain (name : String) (h : isPlainName name = true) : name ≠ "*" := by
  rintro rfl
  exact absurd h (by decide)

/-- What is wanted at the end of a chain: a field of its records, every field of its records,
every field of all records further down, or, where nothing follows the chain, all of its records. -/
inductive Ending where
  | field (name : String)
  | every
  | deeper
  | whole
  deriving DecidableEq, Repr

structure FieldPath where
  chain : List String
  ending : Ending
  deriving DecidableEq, Repr

namespace FieldPath

def Selects (p : FieldPath) (chain : List String) (name : String) : Prop :=
  match p.ending with
  | .field wanted => chain = p.chain ∧ name = wanted
  | .every => chain = p.chain
  | .deeper => p.chain <+: chain ∧ p.chain ≠ chain
  | .whole => chain = p.chain

theorem prefix_of_selects (p : FieldPath) (chain : List String) (name : String)
    (h : p.Selects chain name) : p.chain <+: chain := by
  obtain ⟨c, ending⟩ := p
  cases ending with
  | field wanted => exact h.1 ▸ List.prefix_refl _
  | every => exact (show chain = c from h) ▸ List.prefix_refl _
  | deeper => exact h.1
  | whole => exact (show chain = c from h) ▸ List.prefix_refl _

def Plain (p : FieldPath) : Prop :=
  (∀ key ∈ p.chain, isPlainName key = true) ∧
    match p.ending with
    | .field name => isPlainName name = true
    | .every | .deeper => True
    | .whole => p.chain ≠ []

def base (chain : List String) : String := chain.foldl Selection.childBase ""

def text (p : FieldPath) : String :=
  match p.ending with
  | .field name => base p.chain ++ name
  | .every => base p.chain ++ "*"
  | .deeper => base p.chain ++ "expand.*"
  | .whole => Selection.withoutDot (base p.chain)

def Ending.parts : Ending → List String
  | .field name => [name]
  | .every => ["*"]
  | .deeper => ["expand", "*"]
  | .whole => []

def parts (p : FieldPath) : List String :=
  p.chain.flatMap (fun key => ["expand", key]) ++ Ending.parts p.ending

def under (key : String) (p : FieldPath) : FieldPath := { p with chain := key :: p.chain }

def readParts : List String → Option FieldPath
  | [] => none
  | [last] =>
    if last = "*" then some ⟨[], .every⟩
    else if isPlainName last then some ⟨[], .field last⟩
    else none
  | [first, last] =>
    if first = "expand" then
      if last = "*" then some ⟨[], .deeper⟩
      else if isPlainName last then some ⟨[last], .whole⟩
      else none
    else none
  | first :: key :: next :: rest =>
    if first = "expand" ∧ isPlainName key then (readParts (next :: rest)).map (under key)
    else none

def read? (s : String) : Option FieldPath := readParts (Text.parts '.' s)

def readAll (s : String) : List (Option FieldPath) := (Text.parts ',' s).map read?

def Selected (entries : List (Option FieldPath)) (chain : List String) (name : String) : Prop :=
  ∃ p, some p ∈ entries ∧ p.Selects chain name

/-- The parameter asks for a field of the records at the end of a chain. Without a parameter
everything is asked for. -/
def Requests (parameter : Option String) (chain : List String) (name : String) : Prop :=
  match parameter with
  | none => True
  | some s => Selected (readAll s) chain name

theorem selected_append (a b : List (Option FieldPath)) (chain : List String) (name : String) :
    Selected (a ++ b) chain name ↔ Selected a chain name ∨ Selected b chain name := by
  simp only [Selected, List.mem_append, or_and_right, exists_or]

theorem base_concat (chain : List String) (key : String) :
    base (chain ++ [key]) = Selection.childBase (base chain) key := by
  simp [base]

theorem foldl_childBase (b : String) (chain : List String) :
    chain.foldl Selection.childBase b = b ++ base chain := by
  unfold base
  induction chain generalizing b with
  | nil => simp
  | cons key rest ih =>
    rw [List.foldl_cons, List.foldl_cons, ih, ih (Selection.childBase "" key)]
    simp [Selection.childBase, String.append_assoc]

theorem base_cons (key : String) (chain : List String) :
    base (key :: chain) = "expand." ++ key ++ "." ++ base chain := by
  rw [base, List.foldl_cons, foldl_childBase]
  simp [Selection.childBase]

theorem withoutDot_append_dot (s : String) : Selection.withoutDot (s ++ ".") = s := by
  simp [Selection.withoutDot]

theorem intercalate_base (chain last : List String) (h : last ≠ []) :
    ".".intercalate (chain.flatMap (fun key => ["expand", key]) ++ last) =
      base chain ++ ".".intercalate last := by
  induction chain with
  | nil => simp [base]
  | cons key rest ih =>
    have hne : rest.flatMap (fun key => ["expand", key]) ++ last ≠ [] := by simp [h]
    rw [List.flatMap_cons, List.append_assoc, List.cons_append, List.cons_append, List.nil_append,
      String.intercalate_cons_cons, String.intercalate_cons_of_ne_nil hne, ih, base_cons]
    simp [← String.append_assoc]

theorem text_eq_intercalate (p : FieldPath) (h : p.Plain) : p.text = ".".intercalate p.parts := by
  obtain ⟨chain, ending⟩ := p
  cases ending with
  | field name => rw [parts, intercalate_base _ _ (by simp [Ending.parts])]; rfl
  | every => rw [parts, intercalate_base _ _ (by simp [Ending.parts])]; rfl
  | deeper => rw [parts, intercalate_base _ _ (by simp [Ending.parts])]; rfl
  | whole =>
    obtain ⟨front, key, rfl⟩ := (List.eq_nil_or_concat chain).resolve_left h.2
    have hparts := intercalate_base front ["expand", key] (by simp)
    simp only [parts, Ending.parts, text, List.concat_eq_append, List.flatMap_append,
      List.flatMap_singleton, List.append_nil]
    rw [hparts, base_concat, Selection.childBase, withoutDot_append_dot]
    simp [String.append_assoc]

theorem dot_notMem_of_mem_parts (p : FieldPath) (h : p.Plain) (s : String) (hs : s ∈ p.parts) :
    '.' ∉ s.toList := by
  obtain ⟨chain, ending⟩ := p
  rcases List.mem_append.mp hs with hs | hs
  · obtain ⟨key, hkey, hs⟩ := List.mem_flatMap.mp hs
    rcases List.mem_cons.mp hs with rfl | hs
    · decide
    · exact List.mem_singleton.mp hs ▸ (notMem_of_plain key (h.1 key hkey)).1
  · cases ending with
    | field name => exact List.mem_singleton.mp hs ▸ (notMem_of_plain name h.2).1
    | every => exact List.mem_singleton.mp hs ▸ by decide
    | deeper =>
      have hboth : s = "expand" ∨ s = "*" := by simpa [Ending.parts] using hs
      rcases hboth with rfl | rfl <;> decide
    | whole => simp [Ending.parts] at hs

theorem parts_ne_nil (p : FieldPath) (h : p.Plain) : p.parts ≠ [] := by
  obtain ⟨chain, ending⟩ := p
  cases ending with
  | whole =>
    obtain ⟨front, key, rfl⟩ := (List.eq_nil_or_concat chain).resolve_left h.2
    simp [parts]
  | _ => simp [parts, Ending.parts]

theorem readParts_under (key : String) (l : List String) (hk : isPlainName key = true)
    (h : l ≠ []) : readParts ("expand" :: key :: l) = (readParts l).map (under key) := by
  cases l with
  | nil => exact absurd rfl h
  | cons first rest => simp [readParts, hk]

theorem readParts_parts (p : FieldPath) (h : p.Plain) : readParts p.parts = some p := by
  obtain ⟨chain, ending⟩ := p
  induction chain with
  | nil =>
    cases ending with
    | field name =>
      have hname : isPlainName name = true := h.2
      simp [parts, Ending.parts, readParts, ne_star_of_plain name hname, hname]
    | every => rfl
    | deeper => rfl
    | whole => exact absurd rfl h.2
  | cons key rest ih =>
    have hk : isPlainName key = true := h.1 key (by simp)
    have hrest : ∀ k ∈ rest, isPlainName k = true := fun k mem => h.1 k (by simp [mem])
    by_cases hlast : ending = .whole ∧ rest = []
    · obtain ⟨rfl, rfl⟩ := hlast
      simp [parts, Ending.parts, readParts, ne_star_of_plain key hk, hk]
    · have hplain : Plain ⟨rest, ending⟩ := by
        refine ⟨hrest, ?_⟩
        cases ending with
        | whole => exact fun hnil => hlast ⟨rfl, hnil⟩
        | _ => exact h.2
      have hunder := readParts_under key _ hk (parts_ne_nil _ hplain)
      rw [ih hplain] at hunder
      exact hunder

theorem read?_text (p : FieldPath) (h : p.Plain) : read? p.text = some p := by
  rw [read?, text_eq_intercalate p h,
    Text.parts_intercalate '.' "." rfl _ (dot_notMem_of_mem_parts p h) (parts_ne_nil p h),
    readParts_parts p h]

theorem read?_empty : read? "" = none := by decide

end FieldPath

end RecordSelection
