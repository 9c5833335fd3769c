import RecordSelection.Proofs.Selection.Requested

/-!
# The relations that both parameters name

The parameter of the relations has one chain for each node below the root that expands nothing, in
the order of the tree. Every path of fields goes along one of these chains, and a path that wants
everything further down ends before the chain does.
-/

set_option autoImplicit false

namespace RecordSelection.Selection

mutual

/-- A node and all nodes below it, each before those below it, with the chains of relations that
lead to them. -/
def places (chain : List String) : Selection → List (List String × Selection)
  | ⟨key, fields, expand, sort, filter, requestKey⟩ =>
    (chain, ⟨key, fields, expand, sort, filter, requestKey⟩) :: placesBelow chain expand

def placesBelow (chain : List String) : List Selection → List (List String × Selection)
  | [] => []
  | child :: rest => places (chain ++ [child.key]) child ++ placesBelow chain rest

end

theorem placesBelow_eq (chain : List String) (children : List Selection) :
    placesBelow chain children = children.flatMap fun c => places (chain ++ [c.key]) c := by
  induction children with
  | nil => rfl
  | cons c rest ih => rw [placesBelow, ih, List.flatMap_cons]

theorem places_eq (chain : List String) (s : Selection) :
    places chain s = (chain, s) :: s.expand.flatMap fun c => places (chain ++ [c.key]) c := by
  cases s
  rw [places, placesBelow_eq]

theorem nodes_of_places (chain : List String) (s : Selection) :
    (places chain s).map Prod.snd = s.nodes := by
  induction s using induct generalizing chain with
  | node s ih =>
    rw [places_eq, nodes_eq, List.map_cons, List.map_flatMap]
    congr 1
    exact List.flatMap_congr fun c hc => ih c hc _

theorem reaches_of_mem_places (chain at' : List String) (s n : Selection)
    (h : (at', n) ∈ places chain s) : ∃ rest, at' = chain ++ rest ∧ Reaches s rest n := by
  induction s using induct generalizing chain with
  | node s ih =>
    rw [places_eq] at h
    rcases List.mem_cons.mp h with h | h
    · obtain ⟨rfl, rfl⟩ := Prod.mk.inj h
      exact ⟨[], by simp, .here _⟩
    · obtain ⟨c, hc, h⟩ := List.mem_flatMap.mp h
      obtain ⟨rest, hrest, hreach⟩ := ih c hc _ h
      exact ⟨c.key :: rest, by simpa using hrest, .step hc hreach⟩

def placesBelowRoot (s : Selection) : List (List String × Selection) := (places [] s).tail

theorem placesBelowRoot_spec (s : Selection) :
    s.placesBelowRoot.map Prod.snd = s.nodes.tail ∧
      ∀ place ∈ s.placesBelowRoot, Reaches s place.1 place.2 := by
  constructor
  · rw [placesBelowRoot, List.map_tail, nodes_of_places]
  · intro place hplace
    obtain ⟨rest, hrest, hreach⟩ :=
      reaches_of_mem_places [] place.1 s place.2 (List.mem_of_mem_tail hplace)
    rw [hrest]
    exact hreach

def leafChains (found : List (List String × Selection)) : List (List String) :=
  (found.filter fun place => place.2.expand.isEmpty).map Prod.fst

theorem leafChains_flatMap (children : List Selection)
    (f : Selection → List (List String × Selection)) :
    leafChains (children.flatMap f) = children.flatMap fun c => leafChains (f c) := by
  rw [leafChains, List.filter_flatMap, List.map_flatMap]
  rfl

theorem leafChains_places (chain : List String) (s : Selection) :
    leafChains (places (chain ++ [s.key]) s) = s.keyChains.map (chain ++ ·) := by
  induction s using induct generalizing chain with
  | node s ih =>
    rw [places_eq, keyChains_eq]
    by_cases hnil : s.expand = []
    · simp [leafChains, hnil]
    · have hself : leafChains ((chain ++ [s.key], s) ::
          s.expand.flatMap fun c => places (chain ++ [s.key] ++ [c.key]) c) =
          leafChains (s.expand.flatMap fun c => places (chain ++ [s.key] ++ [c.key]) c) := by
        simp [leafChains, hnil]
      rw [if_neg hnil, hself, leafChains_flatMap, List.map_map, List.map_flatMap]
      apply List.flatMap_congr
      intro c hc
      rw [ih c hc]
      simp [Function.comp_def]

theorem leafChains_placesBelowRoot (s : Selection) :
    leafChains s.placesBelowRoot = s.expand.flatMap keyChains := by
  rw [placesBelowRoot, places_eq, List.tail_cons, leafChains_flatMap]
  apply List.flatMap_congr
  intro c _
  simpa using leafChains_places [] c

/-- From every node that is reached the tree goes on to a leaf, further down if the node expands
anything. -/
theorem exists_keyChain_of_reaches (s n : Selection) (chain : List String)
    (h : Reaches s chain n) :
    ∃ more, s.key :: (chain ++ more) ∈ s.keyChains ∧ (n.expand ≠ [] → more ≠ []) := by
  induction h with
  | here s =>
    by_cases hnil : s.expand = []
    · exact ⟨[], by rw [keyChains_eq, if_pos hnil]; simp, fun hne => absurd hnil hne⟩
    · obtain ⟨c, others, hcons⟩ := List.exists_cons_of_ne_nil hnil
      obtain ⟨first, rest, hchains⟩ := List.exists_cons_of_ne_nil (keyChains_ne_nil c)
      obtain ⟨more, hfirst⟩ := exists_cons_of_mem_keyChains c first (by simp [hchains])
      refine ⟨first, ?_, fun _ => by simp [hfirst]⟩
      rw [keyChains_eq, if_neg hnil, hcons]
      simp [hchains]
  | @step s c n chain child rest ih =>
    obtain ⟨more, hmem, hmore⟩ := ih
    refine ⟨more, ?_, hmore⟩
    rw [keyChains_eq, if_neg (List.ne_nil_of_mem child)]
    exact List.mem_map_of_mem (List.mem_flatMap.mpr ⟨c, child, hmem⟩)

theorem exists_chain_of_reaches (s n : Selection) (chain : List String) (h : Reaches s chain n)
    (hbelow : chain ≠ [] ∨ n.expand ≠ []) :
    ∃ whole ∈ s.expand.flatMap keyChains, chain <+: whole ∧ (n.expand ≠ [] → chain ≠ whole) := by
  obtain ⟨more, hmem, hmore⟩ := exists_keyChain_of_reaches s n chain h
  have hne : chain ++ more ≠ [] := by
    rcases hbelow with hchain | hexpand
    · simp [hchain]
    · simp [hmore hexpand]
  rw [keyChains_eq] at hmem
  split at hmem
  · have hkey := List.cons.inj (List.mem_singleton.mp hmem)
    exact absurd hkey.2 hne
  · obtain ⟨whole, hwhole, hcons⟩ := List.mem_map.mp hmem
    obtain rfl : whole = chain ++ more := (List.cons.inj hcons).2
    refine ⟨chain ++ more, hwhole, List.prefix_append chain more, fun hexpand hsame => ?_⟩
    exact hmore hexpand (List.append_right_eq_self.mp hsame.symm)

theorem reaches_of_mem_fieldPaths (chain : List String) (s : Selection) (p : FieldPath)
    (h : some p ∈ fieldPaths chain s) :
    ∃ rest n, p.chain = chain ++ rest ∧ Reaches s rest n ∧
      (p.ending = .deeper → n.expand ≠ []) := by
  induction s using induct generalizing chain with
  | node s ih =>
    rcases mem_fieldPaths chain s _ h with h | ⟨h, hne⟩ | ⟨c, hc, h⟩
    · obtain ⟨hchain, hdeeper, -⟩ := mem_ownPaths _ _ _ p h
      exact ⟨[], s, by simpa using hchain, .here s, fun hending => absurd hending hdeeper⟩
    · obtain rfl := Option.some.inj h
      exact ⟨[], s, by simp, .here s, fun _ => hne⟩
    · obtain ⟨rest, n, hrest, hreach, hdeeper⟩ := ih c hc _ h
      exact ⟨c.key :: rest, n, by simpa using hrest, .step hc hreach, hdeeper⟩

def namedChains : Option String → List (List String)
  | none => []
  | some text => readChains text

theorem namedChains_compile (s : Selection) (hs : s.Everywhere PlainNode) :
    namedChains s.compile.expand = s.expand.flatMap keyChains := by
  rw [compile_expand s hs]
  split
  · rename_i hnil
    simp [namedChains, hnil]
  · rename_i hne
    exact readChains_compileExpand s hs hne

/-- Each part of the parameter of the fields that is not empty is a path along a chain of the
parameter of the relations, and ends before that chain if it wants everything further down. The
chains are those to the nodes below the root that expand nothing, in the order of the tree. -/
theorem parameters_name_same_relations (s : Selection) (text : String)
    (hs : s.Everywhere PlainNode) (h : s.compile.fields = some text) :
    (∀ part ∈ Text.parts ',' text, part ≠ "" → ∃ p : FieldPath, FieldPath.read? part = some p ∧
      (p.chain ≠ [] → ∃ chain ∈ namedChains s.compile.expand, p.chain <+: chain) ∧
      (p.ending = .deeper →
        ∃ chain ∈ namedChains s.compile.expand, p.chain <+: chain ∧ p.chain ≠ chain)) ∧
    namedChains s.compile.expand = leafChains s.placesBelowRoot ∧
    s.placesBelowRoot.map Prod.snd = s.nodes.tail ∧
    ∀ place ∈ s.placesBelowRoot, Reaches s place.1 place.2 := by
  have htext : text = compileFields "" s := by
    rw [compile_fields, nonEmpty, Option.filter_eq_some_iff] at h
    split at h
    · exact (Option.some.inj h.1).symm
    · exact absurd h.1.symm (Option.some_ne_none text)
  rw [namedChains_compile s hs, leafChains_placesBelowRoot]
  refine ⟨fun part hpart hne => ?_, rfl, placesBelowRoot_spec s⟩
  rw [htext, parts_compileFields s hs] at hpart
  obtain ⟨entry, hentry, rfl⟩ := List.mem_map.mp hpart
  cases entry with
  | none => exact absurd rfl hne
  | some p =>
    have hplain := plain_of_mem_fieldPaths [] s (by simp) hs p hentry
    obtain ⟨rest, n, hrest, hreach, hdeeper⟩ := reaches_of_mem_fieldPaths [] s p hentry
    rw [List.nil_append] at hrest
    rw [← hrest] at hreach
    refine ⟨p, p.read?_text hplain, fun hchain => ?_, fun hending => ?_⟩
    · obtain ⟨whole, hwhole, hprefix, -⟩ := exists_chain_of_reaches s n _ hreach (.inl hchain)
      exact ⟨whole, hwhole, hprefix⟩
    · have hexpand := hdeeper hending
      obtain ⟨whole, hwhole, hprefix, hshort⟩ :=
        exists_chain_of_reaches s n _ hreach (.inr hexpand)
      exact ⟨whole, hwhole, hprefix, hshort hexpand⟩

/-- The author lists a field, so that the comments are named by themselves; the wildcard below the
author goes along the chain to the tags, and no chain ends at the author. -/
theorem wildcard_before_end_of_chain :
    let s : Selection :=
      { key := "posts"
        expand := [{ key := "author", fields := some ["name"], expand := [{ key := "tags" }] },
          { key := "comments" }] }
    s.compile.fields = some "*,expand.author.name,expand.author.expand.*,expand.comments" ∧
      namedChains s.compile.expand = [["author", "tags"], ["comments"]] ∧
      ∃ p : FieldPath, FieldPath.read? "expand.author.expand.*" = some p ∧
        ∃ chain ∈ namedChains s.compile.expand, p.chain <+: chain ∧ p.chain ≠ chain := by
  intro s
  have hfields : s.compile.fields =
      some "*,expand.author.name,expand.author.expand.*,expand.comments" := by decide +kernel
  obtain ⟨hparts, hchains, -⟩ := parameters_name_same_relations s _ (by decide) hfields
  refine ⟨hfields, hchains, ?_⟩
  obtain ⟨p, hread, -, hdeeper⟩ := hparts "expand.author.expand.*" (by decide +kernel) (by decide)
  have hending : p.ending = .deeper := by
    have hp : FieldPath.read? "expand.author.expand.*" = some ⟨["author"], .deeper⟩ := by
      decide +kernel
    rw [hp] at hread
    rw [← Option.some.inj hread]
  exact ⟨p, hread, hdeeper hending⟩

end RecordSelection.Selection
