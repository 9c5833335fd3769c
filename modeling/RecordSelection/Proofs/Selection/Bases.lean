import RecordSelection.Proofs.Selection.Chains

/-!
# Compiling under a base

A base that a tree is compiled under stands in front of each of its entries and does nothing else.
It is handed down through all levels, loses its dot at a node that has no entry of its own, and is
left out where a node lists no field at all; the entries come out the same in all cases.
-/

set_option autoImplicit false

namespace RecordSelection.Selection

/-! ## Fields -/

def based (base entry : String) : String := if entry = "" then "" else base ++ entry

theorem based_of_ne (base entry : String) (h : entry ≠ "") : based base entry = base ++ entry :=
  if_neg h

/-- Under this base the node has an entry that the base is in front of: the base does not stand for
the root, or the node lists fields or expands relations. -/
def Suits (base : String) (s : Selection) : Prop :=
  (∃ b, b ≠ "" ∧ base = b ++ ".") ∨ s.fields ≠ none ∨ s.expand ≠ []

theorem suits_childBase (base key : String) (s : Selection) : Suits (childBase base key) s :=
  .inl ⟨base ++ "expand." ++ key, by simp, rfl⟩

theorem ownTexts_based (base inner : String) (s : Selection)
    (hnames : ∀ names ∈ s.fields, ∀ name ∈ names, IsEntryName name) (hsuits : Suits inner s) :
    ownTexts (base ++ inner) s.fields s.hasExpand =
      (ownTexts inner s.fields s.hasExpand).map (based base) := by
  cases hfields : s.fields with
  | some names =>
    cases names with
    | nil => simp [ownTexts, based]
    | cons first rest =>
      unfold ownTexts
      rw [List.map_map]
      apply List.map_congr_left
      intro name hname
      have hne : inner ++ name ≠ "" := by
        have hname := (hnames _ hfields name hname).1
        simp [hname]
      rw [Function.comp_apply, based_of_ne base _ hne, String.append_assoc]
  | none =>
    cases hexpand : s.hasExpand with
    | true =>
      have hne : inner ++ "*" ≠ "" := by simp
      simp only [ownTexts, if_true, List.map_cons, List.map_nil, based_of_ne base _ hne,
        String.append_assoc]
    | false =>
      rw [hasExpand_eq_false_iff] at hexpand
      obtain ⟨b, hne, rfl⟩ := hsuits.resolve_right (by simp [hfields, hexpand])
      simp [ownTexts, based_of_ne base b hne, ← String.append_assoc,
        FieldPath.withoutDot_append_dot]

theorem segments_based (base inner : String) (s : Selection) (hs : s.Everywhere NamesEntries)
    (hsuits : Suits inner s) :
    segments (base ++ inner) s = (segments inner s).map (based base) := by
  refine listing_map texts texts (base ++ ·) (based base) Suits s ?_ ?_ ?_ suits_childBase inner
    hsuits
  · intro n hn inner hinner
    exact ownTexts_based base inner n (hs n hn).1 hinner
  · intro inner
    have hne : inner ++ "expand.*" ≠ "" := by simp
    exact (String.append_assoc ..).trans (based_of_ne base _ hne).symm
  · intro inner key
    simp [texts, childBase, String.append_assoc]

/-! ## Relations -/

def entries (text : String) : List String := if text = "" then [] else Text.parts ',' text

theorem entries_compileExpand (base : String) (nodes : List Selection)
    (h : ∀ n ∈ nodes, IsEntryName n.key ∧ n.Everywhere NamesRelations)
    (hbase : ',' ∉ base.toList) :
    entries (compileExpand base nodes) =
      (nodes.flatMap keyChains).map fun keys => base ++ ".".intercalate keys := by
  by_cases hnil : nodes = []
  · rw [hnil]
    rfl
  · obtain ⟨hparts, hne⟩ := parts_compileExpand base nodes h hbase hnil
    rw [entries, if_neg hne, hparts]

/-- Compiling under a base puts the base in front of each entry and keeps their order. An entry that
is empty stays empty among the fields, and does not occur among the relations; no nodes give no
entry. A node without a list and without relations has no entry of its own. -/
theorem compile_under_base (base : String) (hbase : ',' ∉ base.toList) :
    (∀ s : Selection, s.Everywhere NamesEntries → s.fields ≠ none ∨ s.expand ≠ [] →
      Text.parts ',' (compileFields base s) =
        (Text.parts ',' (compileFields "" s)).map (based base)) ∧
    ∀ nodes : List Selection, (∀ n ∈ nodes, IsEntryName n.key ∧ n.Everywhere NamesRelations) →
      entries (compileExpand base nodes) = (entries (compileExpand "" nodes)).map (base ++ ·) ∧
      (entries (compileExpand base nodes) = [] ↔ nodes = []) := by
  have hroot : ',' ∉ "".toList := by simp
  constructor
  · intro s hs hentry
    rw [parts_compileFields_eq_segments base s hs hbase, parts_compileFields_eq_segments "" s hs hroot,
      ← segments_based base "" s hs (.inr hentry), String.append_empty]
  · intro nodes hnodes
    rw [entries_compileExpand base nodes hnodes hbase,
      entries_compileExpand "" nodes hnodes hroot, List.map_map]
    constructor
    · apply List.map_congr_left
      intro keys _
      rw [Function.comp_apply, String.empty_append]
    · rw [List.map_eq_nil_iff, keyChains_flatMap_eq_nil_iff]

/-- A node that lists no field, one that lists all of them and a wildcard, with a relation that has a
dot in its key. -/
theorem compile_under_base_author :
    let author : Selection :=
      { key := "author"
        fields := some []
        expand := [{ key := "avatar.full" },
          { key := "posts", fields := some ["title"], expand := [{ key := "tags" }] }] }
    ',' ∉ "expand.author.".toList ∧ author.Everywhere NamesEntries ∧ author.expand ≠ [] ∧
      (∀ n ∈ author.expand, IsEntryName n.key ∧ n.Everywhere NamesRelations) ∧
      Text.parts ',' (compileFields "expand.author." author) =
        ["", "expand.author.expand.avatar.full", "expand.author.expand.posts.title",
          "expand.author.expand.posts.expand.*"] ∧
      entries (compileExpand "author." author.expand) =
        ["author.avatar.full", "author.posts.tags"] := by
  intro author
  have hbase : ',' ∉ "expand.author.".toList := by decide
  have hnamed : author.Everywhere NamesEntries := by decide
  have hrelations : ∀ n ∈ author.expand, IsEntryName n.key ∧ n.Everywhere NamesRelations := by
    decide
  have hfields := (compile_under_base "expand.author." hbase).1 author hnamed (.inr (by decide))
  have hexpand := ((compile_under_base "author." (by decide)).2 author.expand hrelations).1
  refine ⟨hbase, hnamed, by decide, hrelations, ?_, ?_⟩
  · rw [hfields]
    decide +kernel
  · rw [hexpand]
    decide +kernel

end RecordSelection.Selection
