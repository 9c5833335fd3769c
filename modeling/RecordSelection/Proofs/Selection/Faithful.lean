import RecordSelection.Proofs.Selection.Chains

/-!
# Recovering a tree from its parameters

A tree over plain names, in which no relation is expanded twice from one node, is recovered from
the two parameters compiled from it. The chains give the relations; these say at every position
which entries of the other parameter belong to the node at hand. Only a root that expands nothing
compiles alike with no list of fields and with an empty one.
-/

set_option autoImplicit false

namespace RecordSelection.Selection

def takeFields (chain : List String) :
    List (Option FieldPath) → List String × List (Option FieldPath)
  | some ⟨at', .field name⟩ :: rest =>
    if at' = chain then
      let (names, rest) := takeFields chain rest
      (name :: names, rest)
    else ([], some ⟨at', .field name⟩ :: rest)
  | entries => ([], entries)

def takeOwn (chain : List String) :
    List (Option FieldPath) → Option (List String) × List (Option FieldPath)
  | [] => (none, [])
  | none :: rest => (some [], rest)
  | some ⟨at', .field name⟩ :: rest =>
    let (names, rest) := takeFields chain (some ⟨at', .field name⟩ :: rest)
    (some names, rest)
  | some _ :: rest => (none, rest)

mutual

def fill (chain : List String) :
    Selection → List (Option FieldPath) → Selection × List (Option FieldPath)
  | ⟨key, _, expand, _, _, _⟩, entries =>
    let (fields, rest) := takeOwn chain entries
    if rest.head? = some (some ⟨chain, .deeper⟩) then ({ key, fields, expand }, rest.tail)
    else
      let (expand, rest) := fillAll chain expand rest
      ({ key, fields, expand }, rest)

def fillAll (chain : List String) :
    List Selection → List (Option FieldPath) → List Selection × List (Option FieldPath)
  | [], entries => ([], entries)
  | child :: others, entries =>
    let (child', rest) := fill (chain ++ [child.key]) child entries
    let (others', rest) := fillAll chain others rest
    (child' :: others', rest)

end

/-- The entry at the head belongs neither to the node at the chain nor to one below it. -/
def Clear (chain : List String) (entries : List (Option FieldPath)) : Prop :=
  ∀ p, entries.head? = some (some p) → ¬ chain <+: p.chain

theorem takeFields_append (chain names : List String) (rest : List (Option FieldPath))
    (h : ∀ name, rest.head? ≠ some (some ⟨chain, .field name⟩)) :
    takeFields chain (names.map (fun name => some ⟨chain, .field name⟩) ++ rest) =
      (names, rest) := by
  induction names with
  | nil =>
    rw [List.map_nil, List.nil_append]
    unfold takeFields
    split
    · rename_i at' name rest'
      rw [if_neg]
      rintro rfl
      exact h name rfl
    · rfl
  | cons name names ih => simp [takeFields, ih]

theorem takeOwn_append (chain : List String) (fields : Option (List String)) (hasExpand : Bool)
    (rest : List (Option FieldPath))
    (h : ∀ name, rest.head? ≠ some (some ⟨chain, .field name⟩))
    (hbare : fields = none → hasExpand = false → chain ≠ []) :
    takeOwn chain (ownPaths chain fields hasExpand ++ rest) = (fields, rest) := by
  cases fields with
  | some names =>
    cases names with
    | nil => rfl
    | cons name names =>
      have hall := takeFields_append chain (name :: names) rest h
      simp only [List.map_cons, List.cons_append] at hall
      simp [ownPaths, takeOwn, hall]
  | none =>
    cases hasExpand with
    | true => rfl
    | false => simp [ownPaths, takeOwn, hbare rfl rfl]

theorem ownPaths_ne_nil (chain : List String) (fields : Option (List String))
    (hasExpand : Bool) : ownPaths chain fields hasExpand ≠ [] := by
  unfold ownPaths
  split
  · simp
  · rename_i names hne
    cases names with
    | nil => exact absurd rfl hne
    | cons name names => simp
  · split
    · simp
    · split <;> simp

theorem head_fieldPaths (chain : List String) (s : Selection) (rest : List (Option FieldPath))
    (p : FieldPath) (h : (fieldPaths chain s ++ rest).head? = some (some p)) :
    p.chain = chain ∧ p.ending ≠ .deeper := by
  rw [fieldPaths_eq] at h
  cases hown : ownPaths chain s.fields s.hasExpand with
  | nil => exact absurd hown (ownPaths_ne_nil chain s.fields s.hasExpand)
  | cons e own =>
    have he : e = some p := by simpa [hown] using h
    have hp := mem_ownPaths chain s.fields s.hasExpand p (by simp [hown, he])
    exact ⟨hp.1, hp.2.1⟩

theorem clear_of_clear (chain : List String) (key : String) (rest : List (Option FieldPath))
    (h : Clear chain rest) : Clear (chain ++ [key]) rest :=
  fun p hp hprefix => h p hp ((List.prefix_append chain [key]).trans hprefix)

theorem clear_siblings (chain : List String) (key : String) (siblings : List Selection)
    (rest : List (Option FieldPath)) (hkeys : key ∉ siblings.map (·.key)) (h : Clear chain rest) :
    Clear (chain ++ [key])
      ((siblings.flatMap fun c => fieldPaths (chain ++ [c.key]) c) ++ rest) := by
  cases siblings with
  | nil => exact clear_of_clear chain key rest h
  | cons c others =>
    intro p hp hprefix
    rw [List.flatMap_cons, List.append_assoc] at hp
    rw [(head_fieldPaths _ c _ p hp).1] at hprefix
    have hsame : key = c.key := by
      simpa using (List.prefix_append_right_inj chain).mp hprefix
    exact hkeys (by simp [hsame])

/-- The entries below a node begin with the one for all below it exactly when no child lists
fields, and otherwise with an entry of a child. -/
theorem head_lower (chain : List String) (s : Selection) (rest : List (Option FieldPath))
    (h : Clear chain rest) (p : FieldPath)
    (hp : (lower paths chain s ++ rest).head? = some (some p)) :
    p = ⟨chain, .deeper⟩ ∧ s.expand ≠ [] ∧ s.expand.any listsFields = false ∨ p.chain ≠ chain := by
  unfold lower at hp
  split at hp
  · exact .inr fun hc => h p hp (hc ▸ List.prefix_refl _)
  · rename_i hne
    split at hp
    · obtain ⟨c, others, hcons⟩ := List.exists_cons_of_ne_nil hne
      rw [hcons, List.flatMap_cons, List.append_assoc] at hp
      have hc := (head_fieldPaths (chain ++ [c.key]) c _ p hp).1
      exact .inr fun hsame => by simp [hc] at hsame
    · rename_i hflag
      exact .inl ⟨by simpa [paths, eq_comm] using hp, hne, by simpa using hflag⟩

theorem fill_eq (chain : List String) (s : Selection) (entries : List (Option FieldPath)) :
    fill chain s entries =
      if (takeOwn chain entries).2.head? = some (some ⟨chain, .deeper⟩) then
        ({ key := s.key, fields := (takeOwn chain entries).1, expand := s.expand },
          (takeOwn chain entries).2.tail)
      else
        ({ key := s.key, fields := (takeOwn chain entries).1,
           expand := (fillAll chain s.expand (takeOwn chain entries).2).1 },
          (fillAll chain s.expand (takeOwn chain entries).2).2) := by
  cases s
  rfl

theorem fillAll_forest (chain : List String) (forest : List Selection)
    (rest : List (Option FieldPath)) (hkeys : (forest.map (·.key)).Nodup) (h : Clear chain rest)
    (htrees : ∀ c ∈ forest, ∀ rest, Clear (chain ++ [c.key]) rest →
      fill (chain ++ [c.key]) c.skeleton (fieldPaths (chain ++ [c.key]) c ++ rest) =
        (c.tree, rest)) :
    fillAll chain (forest.map skeleton)
        ((forest.flatMap fun c => fieldPaths (chain ++ [c.key]) c) ++ rest) =
      (forest.map tree, rest) := by
  induction forest with
  | nil => rfl
  | cons c others ih =>
    obtain ⟨hfresh, hrest⟩ := List.nodup_cons.mp hkeys
    have hc := htrees c List.mem_cons_self _ (clear_siblings chain c.key others rest hfresh h)
    have hothers := ih hrest fun n hn => htrees n (List.mem_cons_of_mem c hn)
    have hkey : c.skeleton.key = c.key := by rw [skeleton_eq]
    rw [List.map_cons, List.flatMap_cons, List.append_assoc, fillAll, hkey, hc]
    dsimp only
    rw [hothers, List.map_cons]

/-- The entries of a tree, filled into its relations, give the tree and leave what follows. -/
theorem fill_fieldPaths (chain : List String) (s : Selection) (rest : List (Option FieldPath))
    (hs : s.Everywhere DistinctNode) (h : Clear chain rest)
    (hbare : s.fields = none → s.hasExpand = false → chain ≠ []) :
    fill chain s.skeleton (fieldPaths chain s ++ rest) = (s.tree, rest) := by
  induction s using induct generalizing chain rest with
  | node s ih =>
    obtain ⟨hkeys, hbelow⟩ := (everywhere_iff _ s).mp hs
    have hown : takeOwn chain (fieldPaths chain s ++ rest) =
        (s.fields, lower paths chain s ++ rest) := by
      rw [fieldPaths_eq, List.append_assoc]
      apply takeOwn_append chain s.fields s.hasExpand _ _ hbare
      intro name hhead
      rcases head_lower chain s rest h _ hhead with ⟨hp, -⟩ | hp
      · simp at hp
      · exact hp rfl
    rw [fill_eq, hown, skeleton_eq, tree_eq]
    dsimp only
    split
    · rename_i hhead
      rcases head_lower chain s rest h _ hhead with ⟨-, hne, hflag⟩ | hp
      · rw [map_skeleton_eq s.expand hflag]
        simp [lower, hne, hflag]
      · exact absurd rfl hp
    · rename_i hhead
      have hall : fillAll chain (s.expand.map skeleton) (lower paths chain s ++ rest) =
          (s.expand.map tree, rest) := by
        unfold lower at hhead ⊢
        split at hhead
        · rename_i hnil
          simp [hnil, fillAll]
        · rename_i hne
          split at hhead
          · rename_i hflag
            rw [if_neg hne, if_pos hflag]
            refine fillAll_forest chain s.expand rest hkeys h fun c hc rest' h' => ?_
            exact ih c hc _ rest' (hbelow c hc) h' (by simp)
          · exact absurd rfl hhead
      rw [hall]

/-- What a tree asks for: its relations and its lists of fields, without the name at the root. -/
def content (s : Selection) : Selection := { s.tree with key := "" }

theorem content_eq (s : Selection) :
    s.content = { key := "", fields := s.fields, expand := s.expand.map tree } := by
  rw [content, tree_eq]

/-- A root that expands nothing and has no list of fields, or an empty one. -/
def EmptyRoot (s : Selection) : Prop := s.expand = [] ∧ (s.fields = none ∨ s.fields = some [])

theorem lower_ne_nil (chain : List String) (s : Selection) (h : s.expand ≠ []) :
    lower paths chain s ≠ [] := by
  obtain ⟨c, rest, hcons⟩ := List.exists_cons_of_ne_nil h
  unfold lower
  rw [if_neg h]
  split
  · have hc : fieldPaths (chain ++ [c.key]) c ≠ [] := by
      rw [fieldPaths_eq]
      simp [ownPaths_ne_nil]
    rw [hcons, List.flatMap_cons]
    exact List.append_ne_nil_of_left_ne_nil hc _
  · simp

theorem emptyRoot_of_compileFields (s : Selection) (hs : s.Everywhere PlainNode)
    (h : compileFields "" s = "") : s.EmptyRoot := by
  have hread := readAll_compileFields s hs
  rw [h, show FieldPath.readAll "" = [none] by decide, fieldPaths_eq] at hread
  have hlower : lower paths [] s = [] := by
    cases hown : ownPaths [] s.fields s.hasExpand with
    | nil => exact absurd hown (ownPaths_ne_nil _ _ _)
    | cons e own => simp_all
  have hexpand : s.expand = [] := by
    by_contra hne
    exact lower_ne_nil [] s hne hlower
  refine ⟨hexpand, ?_⟩
  rw [hlower, List.append_nil, (hasExpand_eq_false_iff s).mpr hexpand] at hread
  cases hf : s.fields with
  | none => exact .inl rfl
  | some names =>
    cases names with
    | nil => exact .inr rfl
    | cons name names => simp [hf, ownPaths] at hread

theorem compile_expand (s : Selection) (hs : s.Everywhere PlainNode) :
    s.compile.expand =
      if s.expand = [] then none else some (compileExpand "" s.expand) := by
  by_cases hnil : s.expand = []
  · simp [compile, assemble, hasExpand, hnil, nonEmpty]
  · have hne := (parts_compileExpand "" s.expand (named_of_plain s hs) (by simp) hnil).2
    simp [compile, assemble, hasExpand, hnil, nonEmpty, hne]

theorem emptyRoot_iff (s : Selection) (hs : s.Everywhere PlainNode) :
    s.EmptyRoot ↔ s.compile.fields = none ∧ s.compile.expand = none := by
  rw [compile_fields, compile_expand s hs]
  constructor
  · rintro ⟨hexpand, hf | hf⟩
    · simp [listsFields_eq, hexpand, hf, nonEmpty]
    · simp [hexpand, nonEmpty, compileFields_eq, segments, listing_eq, lower, texts, ownTexts, hf]
  · rintro ⟨hfields, hexpand⟩
    have hnil : s.expand = [] := by
      by_contra hne
      simp [hne] at hexpand
    cases hl : s.listsFields with
    | true =>
      apply emptyRoot_of_compileFields s hs
      simpa [hl, nonEmpty] using hfields
    | false =>
      rw [listsFields_eq, Bool.or_eq_false_iff] at hl
      exact ⟨hnil, .inl (by simpa using hl.1)⟩

def recover (fields expand : Option String) : Selection :=
  let forest := match expand with
    | none => []
    | some s => (readChains s).foldr graft []
  match fields with
  | none => { key := "", expand := forest }
  | some s => (fill [] { key := "", expand := forest } (FieldPath.readAll s)).1

theorem recover_compile (s : Selection) (hs : s.Everywhere PlainNode)
    (hd : s.Everywhere DistinctNode) (hroot : ¬ s.EmptyRoot) :
    recover s.compile.fields s.compile.expand = s.content := by
  obtain ⟨hkeys, hbelow⟩ := (everywhere_iff _ s).mp hd
  have hforest : (match s.compile.expand with
      | none => []
      | some t => (readChains t).foldr graft []) = s.expand.map skeleton := by
    rw [compile_expand s hs]
    split
    · rename_i h
      split at h
      · rename_i hnil
        simp [hnil]
      · simp at h
    · rename_i t h
      split at h
      · simp at h
      · rename_i hne
        obtain rfl := Option.some.inj h
        rw [readChains_compileExpand s hs hne]
        exact foldr_graft_forest s.expand hkeys fun c hc =>
          foldr_graft_keyChains c (hbelow c hc)
  unfold recover
  rw [hforest, compile_fields, content_eq]
  cases hl : s.listsFields with
  | false =>
    rw [listsFields_eq, Bool.or_eq_false_iff] at hl
    have hfields : s.fields = none := by simpa using hl.1
    simp [nonEmpty, map_skeleton_eq s.expand hl.2, hfields]
  | true =>
    have hne : compileFields "" s ≠ "" := fun h => hroot (emptyRoot_of_compileFields s hs h)
    have hfill := fill_fieldPaths [] { s with key := "" } []
      ((everywhere_iff _ _).mpr ⟨hkeys, hbelow⟩) (by simp [Clear])
      (fun hf he => absurd ⟨(hasExpand_eq_false_iff s).mp he, .inl hf⟩ hroot)
    rw [List.append_nil, skeleton_eq, tree_eq] at hfill
    simp only [if_true, nonEmpty, Option.filter, ne_eq, hne, not_false_eq_true, decide_true,
      readAll_compileFields s hs]
    rw [fieldPaths_eq] at hfill ⊢
    exact congrArg Prod.fst hfill

theorem listsFields_tree (s : Selection) : s.tree.listsFields = s.listsFields := by
  induction s using induct with
  | node s ih =>
    have hmap : (s.expand.map tree).map listsFields = s.expand.map listsFields := by
      rw [List.map_map]
      exact List.map_congr_left fun c hc => ih c hc
    have hany := congrArg (List.any · id) hmap
    simp only [List.any_map, Function.id_comp] at hany
    rw [listsFields_eq, listsFields_eq s, tree_eq, List.any_map, hany]

theorem listing_tree {β α : Type} (w : Writing β α) (base : β) (s : Selection) :
    listing w base s.tree = listing w base s := by
  induction s using induct generalizing base with
  | node s ih =>
    have hflags : (listsFields ∘ tree) = listsFields := funext listsFields_tree
    have hkey : ∀ c : Selection, c.tree.key = c.key := fun c => by rw [tree_eq]
    have hchildren : (s.expand.map tree).flatMap (fun c => listing w (w.child base c.key) c) =
        s.expand.flatMap fun c => listing w (w.child base c.key) c := by
      rw [List.flatMap_map]
      apply List.flatMap_congr
      intro c hc
      rw [hkey, ih c hc]
    rw [listing_eq, listing_eq w base s, tree_eq]
    simp [lower, hasExpand, List.any_map, hflags, hchildren]

theorem keyChains_tree (s : Selection) : s.tree.keyChains = s.keyChains := by
  induction s using induct with
  | node s ih =>
    have hchildren : (s.expand.map tree).flatMap keyChains = s.expand.flatMap keyChains := by
      rw [List.flatMap_map]
      exact List.flatMap_congr ih
    rw [keyChains_eq, keyChains_eq s, tree_eq]
    simp [hchildren]

theorem compile_tree (s : Selection) :
    s.tree.compile = { fields := s.compile.fields, expand := s.compile.expand } := by
  have hfields : s.tree.compile.fields = s.compile.fields := by
    rw [compile_fields, compile_fields, listsFields_tree, compileFields_eq, compileFields_eq,
      segments, segments, listing_tree]
  have hchains : (s.expand.map tree).flatMap keyChains = s.expand.flatMap keyChains := by
    rw [List.flatMap_map]
    exact List.flatMap_congr fun c _ => keyChains_tree c
  have hexpand : s.tree.compile.expand = s.compile.expand := by
    rw [tree_eq]
    simp [compile, assemble, hasExpand, compileExpand_eq, hchains]
  rw [← hfields, ← hexpand, tree_eq]
  rfl

theorem compile_content (s : Selection) :
    s.content.compile.fields = s.compile.fields ∧
      s.content.compile.expand = s.compile.expand := by
  have hkey : ∀ t : Selection, listing texts "" { t with key := "" } = listing texts "" t :=
    fun t => by rw [listing_eq, listing_eq]; rfl
  have hflag : s.content.listsFields = s.tree.listsFields := by
    rw [listsFields_eq, listsFields_eq s.tree]
    rfl
  have htree := compile_tree s
  constructor
  · have hfields : s.content.compile.fields = s.tree.compile.fields := by
      rw [compile_fields, compile_fields, hflag, compileFields_eq, compileFields_eq, segments,
        segments, content, hkey]
    rw [hfields, htree]
  · have hexpand : s.content.compile.expand = s.tree.compile.expand := rfl
    rw [hexpand, htree]

/-- Two trees over plain names with no relation expanded twice from one node compile to the same
two parameters exactly when they have the same relations and the same lists of fields at every
level, in the same order, or when both are roots that expand nothing and list nothing. -/
theorem compile_eq_iff_content_eq (a b : Selection) (ha : a.Everywhere PlainNode)
    (hb : b.Everywhere PlainNode) (hda : a.Everywhere DistinctNode)
    (hdb : b.Everywhere DistinctNode) :
    a.compile.fields = b.compile.fields ∧ a.compile.expand = b.compile.expand ↔
      a.content = b.content ∨ a.EmptyRoot ∧ b.EmptyRoot := by
  constructor
  · rintro ⟨hfields, hexpand⟩
    have hroots : a.EmptyRoot ↔ b.EmptyRoot := by
      rw [emptyRoot_iff a ha, emptyRoot_iff b hb, hfields, hexpand]
    by_cases hroot : a.EmptyRoot
    · exact .inr ⟨hroot, hroots.mp hroot⟩
    · left
      rw [← recover_compile a ha hda hroot, hfields, hexpand]
      exact recover_compile b hb hdb fun h => hroot (hroots.mpr h)
  · rintro (hcontent | ⟨hra, hrb⟩)
    · rw [← (compile_content a).1, ← (compile_content a).2, hcontent]
      exact compile_content b
    · obtain ⟨hfa, hea⟩ := (emptyRoot_iff a ha).mp hra
      obtain ⟨hfb, heb⟩ := (emptyRoot_iff b hb).mp hrb
      exact ⟨hfa.trans hfb.symm, hea.trans heb.symm⟩

/-- An empty list of fields two levels down is told from none. -/
theorem compile_ne_of_empty_list :
    let posts := fun fields : Option (List String) =>
      ({ key := "posts", fields := some [],
         expand := [{ key := "author", expand := [{ key := "tags", fields }] }] } : Selection)
    ¬((posts none).compile.fields = (posts (some [])).compile.fields ∧
      (posts none).compile.expand = (posts (some [])).compile.expand) := by
  intro posts h
  rcases (compile_eq_iff_content_eq (posts none) (posts (some [])) (by decide) (by decide)
    (by decide) (by decide)).mp h with hsame | ⟨⟨hexpand, -⟩, -⟩
  · exact absurd hsame (by decide)
  · exact absurd hexpand (by decide)

end RecordSelection.Selection
