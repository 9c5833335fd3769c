import Mathlib.Data.List.Basic
import RecordSelection.Proofs.Selection.Tree
import RecordSelection.Proofs.Text.Parts

/-!
# The entries of a tree

The list of the entries that a tree stands for, over any way of writing the entries of one node.
The walk joins these lists, written as texts, with commas, whatever its channel.
-/

set_option autoImplicit false

namespace RecordSelection.Selection

/-- How entries are written under a base: those of a node alone, the one for all that is below a
node, and the base of a child. -/
structure Writing (β α : Type) where
  own : β → Option (List String) → Bool → List α
  deeper : β → α
  child : β → String → β

variable {α α' β β' : Type}

mutual

/-- The entries of a node and of all below it. Nodes below are written out one by one as soon as
one of them lists fields. -/
def listing (w : Writing β α) (base : β) : Selection → List α
  | ⟨_, fields, expand, _, _, _⟩ =>
    w.own base fields (!expand.isEmpty) ++
      if expand.isEmpty then []
      else if expand.any listsFields then listings w base expand
      else [w.deeper base]

def listings (w : Writing β α) (base : β) : List Selection → List α
  | [] => []
  | child :: rest => listing w (w.child base child.key) child ++ listings w base rest

end

theorem listings_eq (w : Writing β α) (base : β) (children : List Selection) :
    listings w base children = children.flatMap fun c => listing w (w.child base c.key) c := by
  induction children with
  | nil => rfl
  | cons c rest ih => rw [listings, ih, List.flatMap_cons]

def lower (w : Writing β α) (base : β) (s : Selection) : List α :=
  if s.expand = [] then []
  else if s.expand.any listsFields then
    s.expand.flatMap fun c => listing w (w.child base c.key) c
  else [w.deeper base]

theorem listing_eq (w : Writing β α) (base : β) (s : Selection) :
    listing w base s = w.own base s.fields s.hasExpand ++ lower w base s := by
  cases s
  simp only [listing, lower, hasExpand, listings_eq, List.isEmpty_iff]

theorem mem_listing (w : Writing β α) (base : β) (s : Selection) (e : α)
    (h : e ∈ listing w base s) :
    e ∈ w.own base s.fields s.hasExpand ∨ e = w.deeper base ∧ s.expand ≠ [] ∨
      ∃ c ∈ s.expand, e ∈ listing w (w.child base c.key) c := by
  rw [listing_eq] at h
  rcases List.mem_append.mp h with h | h
  · exact .inl h
  · unfold lower at h
    split at h
    · simp at h
    · rename_i hne
      split at h
      · exact .inr (.inr (List.mem_flatMap.mp h))
      · exact .inr (.inl ⟨List.mem_singleton.mp h, hne⟩)

/-- Two ways of writing that agree on each node under a change of the base agree on the tree. They
need to agree only under a base that suits the node, as the base of a child always does. -/
theorem listing_map (w : Writing β α) (w' : Writing β' α') (g : β → β') (f : α → α')
    (suits : β → Selection → Prop) (s : Selection)
    (hown : s.Everywhere fun n => ∀ base, suits base n →
      w'.own (g base) n.fields n.hasExpand = (w.own base n.fields n.hasExpand).map f)
    (hdeeper : ∀ base, w'.deeper (g base) = f (w.deeper base))
    (hchild : ∀ base key, w'.child (g base) key = g (w.child base key))
    (hsuits : ∀ base key n, suits (w.child base key) n) (base : β) (hbase : suits base s) :
    listing w' (g base) s = (listing w base s).map f := by
  induction s using induct generalizing base with
  | node s ih =>
    obtain ⟨hs, hc⟩ := (everywhere_iff _ s).mp hown
    rw [listing_eq, listing_eq, List.map_append, hs base hbase]
    congr 1
    unfold lower
    split
    · rfl
    · split
      · rw [List.map_flatMap]
        apply List.flatMap_congr
        intro c mem
        rw [hchild]
        exact ih c mem (hc c mem) _ (hsuits base c.key c)
      · simp [hdeeper]

/-- The texts of the entries of one node: its fields under the base, or a wildcard, or the base
alone. A node that lists no field at all still has an entry, and it is empty. -/
def ownTexts (base : String) (fields : Option (List String)) (hasExpand : Bool) : List String :=
  match fields with
  | some [] => [""]
  | some names => names.map (base ++ ·)
  | none => [if hasExpand then base ++ "*" else withoutDot base]

theorem ownTexts_ne_nil (base : String) (fields : Option (List String)) (hasExpand : Bool) :
    ownTexts base fields hasExpand ≠ [] := by
  unfold ownTexts
  split <;> simp_all

theorem ownPath_eq (base : String) (fields : Option (List String)) (hasExpand : Bool) :
    ownPath base fields hasExpand = ",".intercalate (ownTexts base fields hasExpand) := by
  unfold ownPath ownTexts
  cases fields with
  | none => simp
  | some names => cases names <;> simp

def texts : Writing String String where
  own := ownTexts
  deeper base := base ++ "expand.*"
  child := childBase

def segments (base : String) (s : Selection) : List String := listing texts base s

theorem segments_ne_nil (base : String) (s : Selection) : segments base s ≠ [] := by
  unfold segments
  rw [listing_eq]
  simp [texts, ownTexts_ne_nil]

theorem joinPaths_eq (base : String) (s : Selection) :
    joinPaths base (ownPath base s.fields s.hasExpand) (s.expand.any listsFields)
        (s.expand.map fun c => ",".intercalate (segments (childBase base c.key) c)) =
      ",".intercalate (segments base s) := by
  have hown := ownTexts_ne_nil base s.fields s.hasExpand
  rw [segments, listing_eq, ownPath_eq]
  change _ = ",".intercalate (ownTexts base s.fields s.hasExpand ++ _)
  unfold joinPaths lower
  by_cases hnil : s.expand = []
  · simp [hnil]
  · have hempty : (s.expand.map fun c =>
        ",".intercalate (segments (childBase base c.key) c)).isEmpty = false := by
      simpa using hnil
    rw [hempty, if_neg hnil, if_neg (by simp)]
    split
    · have hgroups := Text.intercalate_flatten ","
        (ownTexts base s.fields s.hasExpand ::
          s.expand.map fun c => segments (childBase base c.key) c) (by
        intro g hg
        rcases List.mem_cons.mp hg with rfl | hg
        · exact hown
        · obtain ⟨c, -, rfl⟩ := List.mem_map.mp hg
          exact segments_ne_nil _ _)
      rw [List.map_cons, List.map_map, List.flatten_cons, ← List.flatMap_def] at hgroups
      exact hgroups
    · rw [String.intercalate_append_of_ne_nil hown (by simp), String.intercalate_singleton]
      simp [texts, String.append_assoc]

/-! ## Entries without commas -/

def IsEntryName (name : String) : Prop := name ≠ "" ∧ ',' ∉ name.toList

instance (name : String) : Decidable (IsEntryName name) := inferInstanceAs (Decidable (_ ∧ _))

def NamesRelations (s : Selection) : Prop := ∀ c ∈ s.expand, IsEntryName c.key

instance (s : Selection) : Decidable s.NamesRelations :=
  inferInstanceAs (Decidable (∀ c ∈ s.expand, IsEntryName c.key))

def NamesEntries (s : Selection) : Prop :=
  (∀ names ∈ s.fields, ∀ name ∈ names, IsEntryName name) ∧ s.NamesRelations

instance (s : Selection) : Decidable s.NamesEntries := inferInstanceAs (Decidable (_ ∧ _))

theorem mem_of_mem_withoutDot (base : String) (c : Char) (h : c ∈ (withoutDot base).toList) :
    c ∈ base.toList := by
  unfold withoutDot at h
  split at h
  · rename_i rest hrest
    have hbase : c ∈ base.toList.reverse := by
      rw [hrest]
      exact List.mem_cons_of_mem _ (by simpa using h)
    exact List.mem_reverse.mp hbase
  · exact h

theorem comma_notMem_ownTexts (base : String) (s : Selection) (hbase : ',' ∉ base.toList)
    (hnames : ∀ names ∈ s.fields, ∀ name ∈ names, IsEntryName name) :
    ∀ entry ∈ ownTexts base s.fields s.hasExpand, ',' ∉ entry.toList := by
  unfold ownTexts
  split
  · simp
  · rename_i names _ hfields
    intro entry hentry hcomma
    obtain ⟨name, hname, rfl⟩ := List.mem_map.mp hentry
    rw [String.toList_append, List.mem_append] at hcomma
    exact hcomma.elim hbase (hnames names hfields name hname).2
  · intro entry hentry hcomma
    rw [List.mem_singleton.mp hentry] at hcomma
    split at hcomma
    · simp [hbase] at hcomma
    · exact hbase (mem_of_mem_withoutDot base ',' hcomma)

theorem comma_notMem_segments (base : String) (s : Selection) (hs : s.Everywhere NamesEntries)
    (hbase : ',' ∉ base.toList) : ∀ entry ∈ segments base s, ',' ∉ entry.toList := by
  induction s using induct generalizing base with
  | node s ih =>
    obtain ⟨⟨hnames, hkeys⟩, hbelow⟩ := (everywhere_iff _ s).mp hs
    intro entry hentry
    rcases mem_listing texts base s entry hentry with hown | ⟨rfl, -⟩ | ⟨c, hc, hlower⟩
    · exact comma_notMem_ownTexts base s hbase hnames entry hown
    · simp [texts, hbase]
    · have hchild : ',' ∉ (childBase base c.key).toList := by
        simp [childBase, hbase, (hkeys c hc).2]
      exact ih c hc (childBase base c.key) (hbelow c hc) hchild entry hlower

end RecordSelection.Selection
