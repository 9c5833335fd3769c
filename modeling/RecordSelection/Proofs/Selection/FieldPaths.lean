import RecordSelection.Proofs.Selection.FieldPath
import RecordSelection.Proofs.Selection.Walk

/-!
# The paths of a tree

The entries of the parameter that names the wanted fields, read as paths. For a tree over plain
names reading the parameter gives exactly the paths that the tree stands for, in order.
-/

set_option autoImplicit false

namespace RecordSelection.Selection

def PlainNode (s : Selection) : Prop :=
  (∀ names ∈ s.fields, ∀ name ∈ names, isPlainName name = true) ∧
    ∀ c ∈ s.expand, isPlainName c.key = true

instance (s : Selection) : Decidable s.PlainNode := inferInstanceAs (Decidable (_ ∧ _))

theorem isEntryName_of_plain (name : String) (h : isPlainName name = true) : IsEntryName name :=
  ⟨((isPlainName_iff name).mp h).1, (notMem_of_plain name h).2⟩

theorem PlainNode.namesEntries {s : Selection} (h : s.PlainNode) : s.NamesEntries :=
  ⟨fun names hnames name hname => isEntryName_of_plain name (h.1 names hnames name hname),
    fun c hc => isEntryName_of_plain c.key (h.2 c hc)⟩

def DistinctNode (s : Selection) : Prop := (s.expand.map (·.key)).Nodup

instance (s : Selection) : Decidable s.DistinctNode := inferInstanceAs (Decidable (List.Nodup _))

/-- The paths of a node alone. The chain of the root is no path, so that the entry of a bare root
is empty, as is the entry of a node that lists no field. -/
def ownPaths (chain : List String) (fields : Option (List String)) (hasExpand : Bool) :
    List (Option FieldPath) :=
  match fields with
  | some [] => [none]
  | some names => names.map fun name => some ⟨chain, .field name⟩
  | none =>
    if hasExpand then [some ⟨chain, .every⟩]
    else if chain = [] then [none]
    else [some ⟨chain, .whole⟩]

def paths : Writing (List String) (Option FieldPath) where
  own := ownPaths
  deeper chain := some ⟨chain, .deeper⟩
  child chain key := chain ++ [key]

def fieldPaths (chain : List String) (s : Selection) : List (Option FieldPath) :=
  listing paths chain s

theorem fieldPaths_eq (chain : List String) (s : Selection) :
    fieldPaths chain s = ownPaths chain s.fields s.hasExpand ++ lower paths chain s :=
  listing_eq paths chain s

def entryText : Option FieldPath → String
  | some p => p.text
  | none => ""

theorem ownTexts_base (chain : List String) (fields : Option (List String)) (hasExpand : Bool) :
    ownTexts (FieldPath.base chain) fields hasExpand =
      (ownPaths chain fields hasExpand).map entryText := by
  cases fields with
  | some names => cases names <;> simp [ownTexts, ownPaths, entryText, FieldPath.text]
  | none =>
    cases hasExpand with
    | true => rfl
    | false =>
      by_cases hnil : chain = []
      · simp [ownTexts, ownPaths, entryText, hnil, FieldPath.base, withoutDot]
      · simp [ownTexts, ownPaths, entryText, hnil, FieldPath.text]

theorem segments_base (chain : List String) (s : Selection) :
    segments (FieldPath.base chain) s = (fieldPaths chain s).map entryText := by
  refine listing_map paths texts FieldPath.base entryText (fun _ _ => True) s ?_ ?_ ?_
    (fun _ _ _ => trivial) chain trivial
  · intro n _ base _
    exact ownTexts_base base n.fields n.hasExpand
  · intro base
    rfl
  · intro base key
    exact (FieldPath.base_concat base key).symm

theorem mem_fieldPaths (chain : List String) (s : Selection) (e : Option FieldPath)
    (h : e ∈ fieldPaths chain s) :
    e ∈ ownPaths chain s.fields s.hasExpand ∨ e = some ⟨chain, .deeper⟩ ∧ s.expand ≠ [] ∨
      ∃ c ∈ s.expand, e ∈ fieldPaths (chain ++ [c.key]) c :=
  mem_listing paths chain s e h

theorem mem_ownPaths (chain : List String) (fields : Option (List String)) (hasExpand : Bool)
    (p : FieldPath) (h : some p ∈ ownPaths chain fields hasExpand) :
    p.chain = chain ∧ p.ending ≠ .deeper ∧
      (∀ name, p.ending = .field name → ∃ names, fields = some names ∧ name ∈ names) ∧
      (p.ending = .whole → chain ≠ []) := by
  unfold ownPaths at h
  split at h
  · simp at h
  · obtain ⟨name, hname, hp⟩ := List.mem_map.mp h
    obtain rfl := Option.some.inj hp
    simpa using hname
  · split at h
    · obtain rfl := Option.some.inj (List.mem_singleton.mp h)
      simp
    · split at h
      · simp at h
      · obtain rfl := Option.some.inj (List.mem_singleton.mp h)
        simpa

theorem plain_of_mem_fieldPaths (chain : List String) (s : Selection)
    (hchain : ∀ key ∈ chain, isPlainName key = true) (hs : s.Everywhere PlainNode)
    (p : FieldPath) (h : some p ∈ fieldPaths chain s) : p.Plain := by
  induction s using induct generalizing chain with
  | node s ih =>
    obtain ⟨⟨hfields, hkeys⟩, hbelow⟩ := (everywhere_iff _ s).mp hs
    rcases mem_fieldPaths chain s _ h with h | ⟨h, -⟩ | ⟨c, hc, h⟩
    · obtain ⟨rfl, hdeeper, hname, hwhole⟩ := mem_ownPaths _ _ _ p h
      refine ⟨hchain, ?_⟩
      split
      · rename_i name hending
        obtain ⟨names, hnames, hmem⟩ := hname name hending
        exact hfields names hnames name hmem
      · trivial
      · trivial
      · rename_i hending
        exact hwhole hending
    · obtain rfl := Option.some.inj h
      exact ⟨hchain, trivial⟩
    · refine ih c hc (chain ++ [c.key]) ?_ (hbelow c hc) h
      intro key hkey
      rcases List.mem_append.mp hkey with hkey | hkey
      · exact hchain key hkey
      · exact List.mem_singleton.mp hkey ▸ hkeys c hc

theorem parts_compileFields (s : Selection) (hs : s.Everywhere PlainNode) :
    Text.parts ',' (compileFields "" s) = (fieldPaths [] s).map entryText := by
  rw [parts_compileFields_eq_segments "" s (fun n hn => (hs n hn).namesEntries) (by simp)]
  exact segments_base [] s

/-- Reading the paths that were compiled from a tree gives the paths of the tree. -/
theorem readAll_compileFields (s : Selection) (hs : s.Everywhere PlainNode) :
    FieldPath.readAll (compileFields "" s) = fieldPaths [] s := by
  rw [FieldPath.readAll, parts_compileFields s hs, List.map_map, List.map_congr_left (g := id),
    List.map_id]
  intro e he
  cases e with
  | none => exact FieldPath.read?_empty
  | some p => exact p.read?_text (plain_of_mem_fieldPaths [] s (by simp) hs p he)

end RecordSelection.Selection
