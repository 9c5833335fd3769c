import Mathlib.Data.List.Nodup
import RecordSelection.Proofs.Selection.Faithful

/-!
# What the parameters ask for

A field is asked for along a chain of relations exactly when the node at the end of the chain lists
it or has no list. No wildcard written anywhere in the tree reaches a node that lists fields, and
no node is left out.
-/

set_option autoImplicit false

namespace RecordSelection.Selection

/-- The node lists the field, or wants all of them. -/
def Wants (s : Selection) (name : String) : Prop := ∀ names ∈ s.fields, name ∈ names

theorem prefix_of_mem_fieldPaths (chain : List String) (s : Selection) (p : FieldPath)
    (h : some p ∈ fieldPaths chain s) : chain <+: p.chain := by
  induction s using induct generalizing chain with
  | node s ih =>
    rcases mem_fieldPaths chain s _ h with h | ⟨h, -⟩ | ⟨c, hc, h⟩
    · exact (mem_ownPaths _ _ _ p h).1 ▸ List.prefix_refl _
    · obtain rfl := Option.some.inj h
      exact List.prefix_refl chain
    · exact (List.prefix_append chain [c.key]).trans (ih c hc _ h)

theorem fields_of_reaches (s n : Selection) (chain : List String) (h : Reaches s chain n)
    (hs : s.listsFields = false) : n.fields = none := by
  induction h with
  | here s =>
    rw [listsFields_eq, Bool.or_eq_false_iff] at hs
    simpa using hs.1
  | step child _ ih =>
    rw [listsFields_eq, Bool.or_eq_false_iff, List.any_eq_false] at hs
    exact ih (by simpa using hs.2 _ child)

theorem selected_ownPaths (chain at' : List String) (s : Selection) (name : String)
    (hbare : s.fields = none → s.hasExpand = false → chain ≠ []) :
    FieldPath.Selected (ownPaths chain s.fields s.hasExpand) at' name ↔
      at' = chain ∧ s.Wants name := by
  unfold Wants
  cases hf : s.fields with
  | some names =>
    cases names with
    | nil => simp [FieldPath.Selected, ownPaths]
    | cons first rest =>
      simp [FieldPath.Selected, ownPaths, FieldPath.Selects, and_or_left, and_comm]
  | none =>
    cases he : s.hasExpand with
    | true => simp [FieldPath.Selected, ownPaths, FieldPath.Selects]
    | false => simp [FieldPath.Selected, ownPaths, FieldPath.Selects, hbare hf he]

theorem not_selected_lower (chain : List String) (s : Selection) (name : String) :
    ¬ FieldPath.Selected (lower paths chain s) chain name := by
  rintro ⟨p, hp, hselects⟩
  unfold lower at hp
  split at hp
  · simp at hp
  · split at hp
    · obtain ⟨c, hc, hp⟩ := List.mem_flatMap.mp hp
      have hbelow := (prefix_of_mem_fieldPaths _ c p hp).trans
        (p.prefix_of_selects chain name hselects)
      have hlength : (chain ++ [c.key]).length ≤ chain.length := hbelow.length_le
      rw [List.length_append, List.length_singleton] at hlength
      omega
    · obtain rfl := Option.some.inj (List.mem_singleton.mp hp)
      exact hselects.2 rfl

/-- Along a chain through a child the entries below a node ask for what those of the child ask
for, or for everything when no child lists fields. -/
theorem selected_lower (chain rest : List String) (s c : Selection) (name : String)
    (hd : s.DistinctNode) (hc : c ∈ s.expand) :
    FieldPath.Selected (lower paths chain s) (chain ++ c.key :: rest) name ↔
      s.expand.any listsFields = false ∨
        s.expand.any listsFields = true ∧
          FieldPath.Selected (fieldPaths (chain ++ [c.key]) c) (chain ++ c.key :: rest) name := by
  have hne : s.expand ≠ [] := List.ne_nil_of_mem hc
  unfold lower
  rw [if_neg hne]
  cases hany : s.expand.any listsFields with
  | false => simp [FieldPath.Selected, paths, FieldPath.Selects]
  | true =>
    simp only [if_true, reduceCtorEq, false_or, true_and]
    constructor
    · rintro ⟨p, hp, hselects⟩
      obtain ⟨c', hc', hp⟩ := List.mem_flatMap.mp hp
      -- The chain names one child in this place, and no sibling has its key.
      have hprefix := (prefix_of_mem_fieldPaths _ c' p hp).trans
        (p.prefix_of_selects _ name hselects)
      have hkey : c'.key = c.key := by simpa [paths] using hprefix
      rw [List.inj_on_of_nodup_map hd hc' hc hkey] at hp
      exact ⟨p, hp, hselects⟩
    · rintro ⟨p, hp, hselects⟩
      exact ⟨p, List.mem_flatMap.mpr ⟨c, hc, hp⟩, hselects⟩

theorem selected_fieldPaths (chain rest : List String) (s n : Selection) (name : String)
    (hd : s.Everywhere DistinctNode) (hreach : Reaches s rest n)
    (hbare : s.fields = none → s.hasExpand = false → chain ≠ []) :
    FieldPath.Selected (fieldPaths chain s) (chain ++ rest) name ↔ n.Wants name := by
  induction hreach generalizing chain with
  | here s =>
    rw [fieldPaths_eq, FieldPath.selected_append, List.append_nil,
      selected_ownPaths chain _ s name hbare]
    simp [not_selected_lower]
  | step hc hrest ih =>
    rename_i s c n rest
    obtain ⟨hdistinct, hbelow⟩ := (everywhere_iff _ s).mp hd
    have hchild := ih (chain ++ [c.key]) (hbelow c hc) (by simp)
    rw [List.append_assoc, List.singleton_append] at hchild
    rw [fieldPaths_eq, FieldPath.selected_append, selected_ownPaths chain _ s name hbare,
      selected_lower chain rest s c name hdistinct hc, hchild]
    cases hany : s.expand.any listsFields with
    | true => simp
    | false =>
      have hflag : c.listsFields = false := by simpa using List.any_eq_false.mp hany c hc
      have hfields := fields_of_reaches c n rest hrest hflag
      simp [Wants, hfields]

/-- The parameter compiled from a tree asks for what the node at the end of a chain wants. -/
theorem requests_compile (s n : Selection) (chain : List String) (name : String)
    (hs : s.Everywhere PlainNode) (hd : s.Everywhere DistinctNode)
    (hroot : ¬(s.expand = [] ∧ s.fields = some [])) (hreach : Reaches s chain n) :
    FieldPath.Requests s.compile.fields chain name ↔ n.Wants name := by
  rw [compile_fields]
  cases hl : s.listsFields with
  | false =>
    have hfields := fields_of_reaches s n chain hreach hl
    simp [nonEmpty, FieldPath.Requests, Wants, hfields]
  | true =>
    have hbare : s.fields = none → s.hasExpand = false → ([] : List String) ≠ [] := by
      intro hf he
      rw [listsFields_eq, hf, (hasExpand_eq_false_iff s).mp he] at hl
      simp at hl
    have hne : compileFields "" s ≠ "" := by
      intro hempty
      obtain ⟨hexpand, hf | hf⟩ := emptyRoot_of_compileFields s hs hempty
      · exact hbare hf ((hasExpand_eq_false_iff s).mpr hexpand) rfl
      · exact hroot ⟨hexpand, hf⟩
    have hselected := selected_fieldPaths [] chain s n name hd hreach hbare
    rw [← readAll_compileFields s hs, List.nil_append] at hselected
    simpa [nonEmpty, Option.filter, FieldPath.Requests, hne] using hselected

end RecordSelection.Selection
