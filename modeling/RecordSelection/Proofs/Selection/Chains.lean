import RecordSelection.Proofs.Selection.FieldPaths

/-!
# Chains of relations

The parameter that names the relations to expand: one chain of keys for each node below the root
that expands nothing. Over plain names it reads back as the chains of the tree, and chains that
come one after the other are grafted into the relations that they were taken from.
-/

set_option autoImplicit false

namespace RecordSelection.Selection

mutual

/-- The chains of keys from a node to the nodes that expand nothing. -/
def keyChains : Selection → List (List String)
  | ⟨key, _, expand, _, _, _⟩ =>
    match expand with
    | [] => [[key]]
    | child :: rest => (keyChainsOf (child :: rest)).map (key :: ·)

def keyChainsOf : List Selection → List (List String)
  | [] => []
  | child :: rest => keyChains child ++ keyChainsOf rest

end

theorem keyChainsOf_eq (children : List Selection) :
    keyChainsOf children = children.flatMap keyChains := by
  induction children with
  | nil => rfl
  | cons c rest ih => rw [keyChainsOf, ih, List.flatMap_cons]

theorem keyChains_eq (s : Selection) :
    s.keyChains =
      if s.expand = [] then [[s.key]] else (s.expand.flatMap keyChains).map (s.key :: ·) := by
  obtain ⟨key, fields, expand, sort, filter, requestKey⟩ := s
  cases expand with
  | nil => rfl
  | cons c rest => rw [keyChains, keyChainsOf_eq]; simp

theorem keyChains_ne_nil (s : Selection) : s.keyChains ≠ [] := by
  induction s using induct with
  | node s ih =>
    rw [keyChains_eq]
    split
    · simp
    · rename_i hne
      obtain ⟨c, rest, hcons⟩ := List.exists_cons_of_ne_nil hne
      have hc := ih c (by simp [hcons])
      simp [hcons, hc]

theorem exists_cons_of_mem_keyChains (s : Selection) (chain : List String)
    (h : chain ∈ s.keyChains) : ∃ rest, chain = s.key :: rest := by
  rw [keyChains_eq] at h
  split at h
  · exact ⟨[], List.mem_singleton.mp h⟩
  · obtain ⟨rest, -, rfl⟩ := List.mem_map.mp h
    exact ⟨rest, rfl⟩

theorem chains_eq (base : String) (children : List Selection) :
    chains base children = children.map (chain base) := by
  induction children with
  | nil => rfl
  | cons c rest ih => rw [chains, ih, List.map_cons]

theorem chain_eq (base : String) (s : Selection) :
    chain base s =
      ",".intercalate (s.keyChains.map fun keys => base ++ ".".intercalate keys) := by
  induction s using induct generalizing base with
  | node s ih =>
    obtain ⟨key, fields, expand, sort, filter, requestKey⟩ := s
    cases expand with
    | nil => simp [chain, keyChains]
    | cons c rest =>
      have hgroups := Text.intercalate_flatten ","
        ((c :: rest).map fun n =>
          n.keyChains.map fun keys => base ++ key ++ "." ++ ".".intercalate keys) (by
        intro g hg
        obtain ⟨n, -, rfl⟩ := List.mem_map.mp hg
        simpa using keyChains_ne_nil n)
      have hnodes : (c :: rest).map (chain (base ++ key ++ ".")) =
          ((c :: rest).map fun n =>
            n.keyChains.map fun keys => base ++ key ++ "." ++ ".".intercalate keys).map
              ",".intercalate := by
        rw [List.map_map]
        exact List.map_congr_left fun n hn => ih n hn _
      rw [chain, chains_eq, hnodes, hgroups, keyChains_eq, if_neg (by simp), List.map_map]
      rw [← List.flatMap_def, ← List.map_flatMap]
      congr 1
      apply List.map_congr_left
      intro keys hkeys
      obtain ⟨n, hn, hkeys⟩ := List.mem_flatMap.mp hkeys
      obtain ⟨keys', rfl⟩ := exists_cons_of_mem_keyChains n keys hkeys
      simp [String.append_assoc]

theorem compileExpand_eq (base : String) (children : List Selection) :
    compileExpand base children = ",".intercalate
      ((children.flatMap keyChains).map fun keys => base ++ ".".intercalate keys) := by
  have hgroups := Text.intercalate_flatten ","
    (children.map fun n => n.keyChains.map fun keys => base ++ ".".intercalate keys) (by
    intro g hg
    obtain ⟨n, -, rfl⟩ := List.mem_map.mp hg
    simpa using keyChains_ne_nil n)
  rw [List.map_map, ← List.flatMap_def, ← List.map_flatMap] at hgroups
  rw [compileExpand, chains_eq, ← hgroups]
  congr 1
  exact List.map_congr_left fun n _ => chain_eq base n

def readChains (s : String) : List (List String) := (Text.parts ',' s).map (Text.parts '.')

theorem forall_key_of_mem_keyChains (P : String → Prop) (s : Selection) (hkey : P s.key)
    (hs : s.Everywhere fun n => ∀ c ∈ n.expand, P c.key) (chain : List String)
    (h : chain ∈ s.keyChains) : ∀ key ∈ chain, P key := by
  induction s using induct generalizing chain with
  | node s ih =>
    obtain ⟨hkeys, hbelow⟩ := (everywhere_iff _ s).mp hs
    rw [keyChains_eq] at h
    split at h
    · obtain rfl := List.mem_singleton.mp h
      simpa using hkey
    · obtain ⟨rest, hrest, rfl⟩ := List.mem_map.mp h
      obtain ⟨c, hc, hrest⟩ := List.mem_flatMap.mp hrest
      exact List.forall_mem_cons.mpr ⟨hkey, ih c hc (hkeys c hc) (hbelow c hc) rest hrest⟩

theorem plain_of_mem_keyChains (s : Selection) (hkey : isPlainName s.key = true)
    (hs : s.Everywhere PlainNode) (chain : List String) (h : chain ∈ s.keyChains) :
    ∀ key ∈ chain, isPlainName key = true :=
  forall_key_of_mem_keyChains (isPlainName · = true) s hkey (fun n hn => (hs n hn).2) chain h

theorem isEntryName_of_mem_keyChains (nodes : List Selection)
    (h : ∀ n ∈ nodes, IsEntryName n.key ∧ n.Everywhere NamesRelations) (keys : List String)
    (hkeys : keys ∈ nodes.flatMap keyChains) : IsEntryName (".".intercalate keys) := by
  obtain ⟨n, hn, hchain⟩ := List.mem_flatMap.mp hkeys
  have hnamed := forall_key_of_mem_keyChains IsEntryName n (h n hn).1 (h n hn).2 keys hchain
  obtain ⟨rest, rfl⟩ := exists_cons_of_mem_keyChains n keys hchain
  constructor
  · exact Text.intercalate_ne_empty "." _ n.key (by simp) (h n hn).1.1
  · intro hcomma
    rcases Text.mem_intercalate _ _ _ hcomma with hcomma | ⟨key, hkey, hcomma⟩
    · exact absurd hcomma (by decide)
    · exact (hnamed key hkey).2 hcomma

theorem keyChains_flatMap_eq_nil_iff (nodes : List Selection) :
    nodes.flatMap keyChains = [] ↔ nodes = [] := by
  rw [List.flatMap_eq_nil_iff, List.eq_nil_iff_forall_not_mem]
  exact forall₂_congr fun n _ => iff_false_intro (keyChains_ne_nil n)

theorem parts_compileExpand (base : String) (nodes : List Selection)
    (h : ∀ n ∈ nodes, IsEntryName n.key ∧ n.Everywhere NamesRelations)
    (hbase : ',' ∉ base.toList) (hne : nodes ≠ []) :
    Text.parts ',' (compileExpand base nodes) =
        ((nodes.flatMap keyChains).map fun keys => base ++ ".".intercalate keys) ∧
      compileExpand base nodes ≠ "" := by
  have hchains := mt (keyChains_flatMap_eq_nil_iff nodes).mp hne
  rw [compileExpand_eq]
  constructor
  · apply Text.parts_intercalate ',' "," rfl
    · intro entry hentry hcomma
      obtain ⟨keys, hkeys, rfl⟩ := List.mem_map.mp hentry
      rw [String.toList_append, List.mem_append] at hcomma
      exact hcomma.elim hbase (isEntryName_of_mem_keyChains nodes h keys hkeys).2
    · exact mt List.map_eq_nil_iff.mp hchains
  · obtain ⟨keys, hkeys⟩ := List.exists_mem_of_ne_nil _ hchains
    have hentry : base ++ ".".intercalate keys ≠ "" := by
      simp [(isEntryName_of_mem_keyChains nodes h keys hkeys).1]
    exact Text.intercalate_ne_empty "," _ _ (List.mem_map_of_mem hkeys) hentry

theorem named_of_plain (s : Selection) (hs : s.Everywhere PlainNode) :
    ∀ n ∈ s.expand, IsEntryName n.key ∧ n.Everywhere NamesRelations := by
  obtain ⟨hnode, hbelow⟩ := (everywhere_iff _ s).mp hs
  exact fun n hn => ⟨(hnode.namesEntries).2 n hn, fun m hm => (hbelow n hn m hm).namesEntries.2⟩

/-- Reading the chains that were compiled from a tree gives the chains of the tree. -/
theorem readChains_compileExpand (s : Selection) (hs : s.Everywhere PlainNode)
    (hne : s.expand ≠ []) :
    readChains (compileExpand "" s.expand) = s.expand.flatMap keyChains := by
  obtain ⟨⟨-, hkeys⟩, hbelow⟩ := (everywhere_iff _ s).mp hs
  rw [readChains, (parts_compileExpand "" s.expand (named_of_plain s hs) (by simp) hne).1,
    List.map_map, List.map_congr_left (g := id), List.map_id]
  intro chain hchain
  obtain ⟨c, hc, hchain⟩ := List.mem_flatMap.mp hchain
  have hplain := plain_of_mem_keyChains c (hkeys c hc) (hbelow c hc) chain hchain
  obtain ⟨rest, rfl⟩ := exists_cons_of_mem_keyChains c chain hchain
  rw [Function.comp_apply, String.empty_append]
  exact Text.parts_intercalate '.' "." rfl _
    (fun key hkey => (notMem_of_plain key (hplain key hkey)).1) (List.cons_ne_nil _ _)

/-- Adds a chain to a list of trees, to the first tree if that begins with the same key, and in
front of all trees otherwise. -/
def graft : List String → List Selection → List Selection
  | [], forest => forest
  | key :: rest, [] => [{ key, expand := graft rest [] }]
  | key :: rest, first :: others =>
    if first.key = key then { key, expand := graft rest first.expand } :: others
    else { key, expand := graft rest [] } :: first :: others

theorem graft_of_ne (key : String) (rest : List String) (forest : List Selection)
    (h : ∀ first ∈ forest.head?, first.key ≠ key) :
    graft (key :: rest) forest = { key, expand := graft rest [] } :: forest := by
  cases forest with
  | nil => rfl
  | cons first others => simp [graft, h first (by simp)]

theorem foldr_graft_cons (key : String) (chains : List (List String)) (forest : List Selection)
    (hne : chains ≠ []) (h : ∀ first ∈ forest.head?, first.key ≠ key) :
    (chains.map (key :: ·)).foldr graft forest =
      { key, expand := chains.foldr graft [] } :: forest := by
  induction chains with
  | nil => exact absurd rfl hne
  | cons chain rest ih =>
    rw [List.map_cons, List.foldr_cons]
    by_cases hrest : rest = []
    · subst hrest
      exact graft_of_ne key chain forest h
    · rw [ih hrest]
      simp [graft]

theorem foldr_graft_forest (forest : List Selection) (hkeys : (forest.map (·.key)).Nodup)
    (htrees : ∀ c ∈ forest, ∀ others : List Selection, (∀ first ∈ others.head?, first.key ≠ c.key) →
      c.keyChains.foldr graft others = c.skeleton :: others) :
    (forest.flatMap keyChains).foldr graft [] = forest.map skeleton := by
  induction forest with
  | nil => rfl
  | cons c rest ih =>
    obtain ⟨hfresh, hrest⟩ := List.nodup_cons.mp hkeys
    rw [List.flatMap_cons, List.foldr_append,
      ih hrest fun n hn => htrees n (List.mem_cons_of_mem c hn)]
    apply htrees c List.mem_cons_self
    intro first hfirst hsame
    cases rest with
    | nil => simp at hfirst
    | cons next rest =>
      obtain rfl : next.skeleton = first := by simpa using hfirst
      rw [skeleton_eq] at hsame
      exact hfresh (by simp [show next.key = c.key from hsame])

theorem foldr_graft_keyChains (s : Selection) (hs : s.Everywhere DistinctNode)
    (others : List Selection) (h : ∀ first ∈ others.head?, first.key ≠ s.key) :
    s.keyChains.foldr graft others = s.skeleton :: others := by
  induction s using induct generalizing others with
  | node s ih =>
    obtain ⟨hkeys, hbelow⟩ := (everywhere_iff _ s).mp hs
    rw [keyChains_eq, skeleton_eq]
    split
    · rename_i hnil
      rw [hnil]
      exact graft_of_ne s.key [] others h
    · rename_i hne
      obtain ⟨c, rest, hcons⟩ := List.exists_cons_of_ne_nil hne
      rw [foldr_graft_cons s.key _ others (by simp [hcons, keyChains_ne_nil c]) h,
        foldr_graft_forest s.expand hkeys fun c hc => ih c hc (hbelow c hc)]

end RecordSelection.Selection
