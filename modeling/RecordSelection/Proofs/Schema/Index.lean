import RecordSelection.Proofs.Schema.Relations

/-!
# The index of relations

What the index lists and what it resolves are found in different ways: the keys that leave an
entity are gathered in two passes when the index is built, and a key is matched against the fields
of the entity when it is resolved. Both agree with the declarations, and so with each other.
-/

set_option autoImplicit false

namespace RecordSelection

namespace KeySets

theorem mem_keysOf_add (sets : KeySets) (entity key e k : String) :
    k ∈ (sets.add entity key).keysOf e ↔ (entity = e ∧ key = k) ∨ k ∈ sets.keysOf e := by
  unfold keysOf add
  rw [Dictionary.get?_update]
  by_cases he : entity = e
  · subst he
    cases hkeys : sets.get? entity with
    | none => simp [Dictionary.mem_keys_iff, Dictionary.get?_insert, Dictionary.get?_empty]
    | some keys =>
      by_cases hk : key = k <;> simp [Dictionary.mem_keys_iff, Dictionary.get?_insert, hk]
  · simp [he]

theorem keysOf_ordered (sets : KeySets) (entity : String) :
    (sets.keysOf entity).Pairwise (· < ·) := by
  unfold keysOf
  cases sets.get? entity with
  | none => exact .nil
  | some keys => exact List.pairwise_map.mpr keys.ordered

end KeySets

/-- The key can be used at the entity: it is declared, and reached by a field of its name or back
through a relation. -/
def Leaves (declared : Dictionary RelationDeclaration) (entity : String) (fields : Entity)
    (key : String) : Prop :=
  declared.contains key = true ∧ (fields.contains key = true ∨ ReachedBack declared entity key)

/-- The relation leads to an entity that is not there. -/
def Stray (entities : Dictionary Entity) (declared : Dictionary RelationDeclaration)
    (key : String) (d : RelationDeclaration) : Prop :=
  declared.get? key = some d ∧ entities.get? d.target = none

namespace RelationIndex

variable (entities : Dictionary Entity) (declared : Dictionary RelationDeclaration)

theorem addRelations_eq_error_iff (entries : List (String × RelationDeclaration))
    (index : RelationIndex) (f : SchemaFault) :
    addRelations entities declared entries index = .error f ↔
      ∃ x, entries.find? (fun x => !entities.contains x.2.target) = some x ∧
        f = .unknownTarget x.1 x.2.target := by
  induction entries generalizing index with
  | nil => simp [addRelations]
  | cons entry rest ih =>
    obtain ⟨key, d⟩ := entry
    by_cases htarget : entities.contains d.target = true
    · simp [addRelations, addRelation, htarget, bind, Except.bind, ih]
    · simp [addRelations, addRelation, htarget, bind, Except.bind, eq_comm]

theorem build_eq_error_iff (f : SchemaFault) :
    build entities declared = .error f ↔
      addRelations entities declared declared.entries {} = .error f := by
  unfold build
  cases addRelations entities declared declared.entries {} <;>
    simp [bind, Except.bind, pure, Except.pure]

def place (index : RelationIndex) (key : String) (d : RelationDeclaration) : RelationIndex where
  relations := index.relations.insert key (declare declared key d)
  leaving := match directionOf declared key with
    | .back _ source => index.leaving.add source key
    | .forward => index.leaving
  reaching := index.reaching.add d.target key

theorem addRelations_cons_ok (key : String) (d : RelationDeclaration)
    (rest : List (String × RelationDeclaration)) (index index' : RelationIndex)
    (h : addRelations entities declared ((key, d) :: rest) index = .ok index') :
    addRelations entities declared rest (index.place declared key d) = .ok index' := by
  by_cases htarget : entities.contains d.target = true
  · simp only [addRelations, addRelation, htarget, if_true, bind, Except.bind] at h
    exact h
  · simp [addRelations, addRelation, htarget, bind, Except.bind] at h

theorem mem_incoming_place (index : RelationIndex) (key : String) (d : RelationDeclaration)
    (entity k : String) :
    k ∈ (index.place declared key d).incoming entity ↔
      (d.target = entity ∧ key = k) ∨ k ∈ index.incoming entity :=
  KeySets.mem_keysOf_add index.reaching d.target key entity k

theorem mem_outgoing_place (index : RelationIndex) (key : String) (d : RelationDeclaration)
    (entity k : String) :
    k ∈ (index.place declared key d).outgoing entity ↔
      (ReachedBack declared entity key ∧ key = k) ∨ k ∈ index.outgoing entity := by
  rw [← isBackFrom_declare declared entity key d]
  unfold outgoing place declare Relation.isBackFrom
  cases directionOf declared key with
  | forward => simp
  | back via source => simp [KeySets.mem_keysOf_add]

theorem mem_of_addRelations (entries : List (String × RelationDeclaration))
    (index index' : RelationIndex)
    (h : addRelations entities declared entries index = .ok index') (entity key : String) :
    (key ∈ index'.incoming entity ↔
      key ∈ index.incoming entity ∨ ∃ d, (key, d) ∈ entries ∧ d.target = entity) ∧
    (key ∈ index'.outgoing entity ↔
      key ∈ index.outgoing entity ∨
        (∃ d, (key, d) ∈ entries) ∧ ReachedBack declared entity key) := by
  induction entries generalizing index with
  | nil =>
    obtain rfl := Except.ok.inj h
    simp
  | cons entry rest ih =>
    obtain ⟨k, d⟩ := entry
    obtain ⟨hincoming, houtgoing⟩ := ih _ (addRelations_cons_ok entities declared k d rest _ _ h)
    rw [hincoming, houtgoing, mem_incoming_place, mem_outgoing_place]
    constructor
    · simp only [List.mem_cons, Prod.mk.injEq, or_and_right, exists_or]
      grind
    · simp only [List.mem_cons, Prod.mk.injEq, exists_or]
      grind

theorem mem_outgoing_addFields (index : RelationIndex) (entity : String) (fields : Entity)
    (e k : String) :
    k ∈ (index.addFields entity fields).outgoing e ↔
      k ∈ index.outgoing e ∨
        entity = e ∧ fields.contains k = true ∧ index.relations.contains k = true := by
  have hfold : ∀ (names : List String) (sets : KeySets),
      k ∈ (names.foldl (fun sets field =>
          if index.relations.contains field then sets.add entity field else sets) sets).keysOf e ↔
        k ∈ sets.keysOf e ∨ entity = e ∧ k ∈ names ∧ index.relations.contains k = true := by
    intro names
    induction names with
    | nil => simp
    | cons name rest ih =>
      intro sets
      rw [List.foldl_cons, ih]
      split
      · rw [KeySets.mem_keysOf_add]
        grind
      · grind
  have hkeys : fields.contains k = true ↔ k ∈ fields.keys := by
    rw [Dictionary.contains_iff, Dictionary.mem_keys_iff]
  rw [hkeys]
  exact hfold fields.keys index.leaving

theorem mem_of_addFields (entries : List (String × Entity)) (index : RelationIndex)
    (e k : String) :
    let added := entries.foldl (fun index entry => index.addFields entry.1 entry.2) index
    (k ∈ added.incoming e ↔ k ∈ index.incoming e) ∧
    (k ∈ added.outgoing e ↔
      k ∈ index.outgoing e ∨
        (∃ fields, (e, fields) ∈ entries ∧ fields.contains k = true) ∧
          index.relations.contains k = true) := by
  induction entries generalizing index with
  | nil => simp
  | cons entry rest ih =>
    obtain ⟨name, fields⟩ := entry
    obtain ⟨hincoming, houtgoing⟩ := ih (index.addFields name fields)
    refine ⟨hincoming, houtgoing.trans ?_⟩
    rw [mem_outgoing_addFields]
    have hrelations : (index.addFields name fields).relations = index.relations := rfl
    rw [hrelations]
    simp only [List.mem_cons, Prod.mk.injEq]
    grind

theorem exists_of_build (index : RelationIndex) (h : build entities declared = .ok index) :
    ∃ added, addRelations entities declared declared.entries {} = .ok added ∧
      index =
        entities.entries.foldl (fun index entry => index.addFields entry.1 entry.2) added := by
  cases hadd : addRelations entities declared declared.entries {} with
  | error fault => simp [build, hadd, bind, Except.bind] at h
  | ok added =>
    simp only [build, hadd, bind, Except.bind, pure, Except.pure, Except.ok.injEq] at h
    exact ⟨added, rfl, h.symm⟩

/-- The keys that an index lists under an entity are those of the relations that lead to it, and
those that can be used at it. -/
theorem mem_of_build (index : RelationIndex) (h : build entities declared = .ok index)
    (entity : String) (fields : Entity) (found : entities.get? entity = some fields)
    (key : String) :
    (key ∈ index.incoming entity ↔ ∃ d, declared.get? key = some d ∧ d.target = entity) ∧
    (key ∈ index.outgoing entity ↔ Leaves declared entity fields key) := by
  obtain ⟨added, hadd, rfl⟩ := exists_of_build entities declared index h
  obtain ⟨hincoming, houtgoing⟩ := mem_of_addFields entities.entries added entity key
  obtain ⟨hreach, hback⟩ :=
    mem_of_addRelations entities declared declared.entries {} added hadd entity key
  have hdeclared : added.relations.contains key = true ↔ declared.contains key = true := by
    have hget := (addRelations_ok entities declared _ declared.ordered _ _ hadd).2 key
    rw [← Dictionary.get?_eq_find] at hget
    simp only [get?, Dictionary.get?_empty, Option.or_none] at hget
    rw [Dictionary.contains_iff, Dictionary.contains_iff, hget]
    cases declared.get? key <;> simp
  have hfields : (∃ fields, (entity, fields) ∈ entities.entries ∧ fields.contains key = true) ↔
      fields.contains key = true := by
    simp only [Dictionary.mem_entries_iff, found, Option.some.injEq, exists_eq_left']
  have hnone : ∀ e, key ∉ ({} : RelationIndex).incoming e ∧ key ∉ ({} : RelationIndex).outgoing e :=
    fun e => ⟨List.not_mem_nil, List.not_mem_nil⟩
  constructor
  · rw [hincoming, hreach]
    simp [hnone entity, Dictionary.mem_entries_iff]
  · rw [houtgoing, hback, hdeclared, hfields]
    simp only [hnone entity, false_or, Dictionary.mem_entries_iff, ← Dictionary.contains_iff]
    rw [Leaves, and_or_left, or_comm, and_comm (b := declared.contains key = true)]

theorem resolve_of_build (index : RelationIndex) (h : build entities declared = .ok index)
    (entity : String) (fields : Entity) (key : String) :
    (∃ r, index.resolve entity fields key = .ok r ∧ Leaves declared entity fields key ∧
      ¬(fields.contains key = true ∧ ReachedBack declared entity key)) ∨
    (index.resolve entity fields key = .error (.ambiguousRelation entity key) ∧
      declared.contains key = true ∧ fields.contains key = true ∧
        ReachedBack declared entity key) ∨
    (index.resolve entity fields key =
        .error (.noRelation entity key (index.outgoing entity)) ∧
      ¬Leaves declared entity fields key) := by
  have hget := (build_ok entities declared index h).2 key
  unfold resolve Leaves
  rw [hget, Dictionary.contains_iff]
  cases hd : declared.get? key with
  | none => simp
  | some d =>
    rw [← isBackFrom_declare declared entity key d, Option.map_some]
    dsimp only
    cases fields.contains key <;> cases (declare declared key d).isBackFrom entity <;> simp

/-- What an index lists and what it resolves agree on a key at an entity. -/
structure Agrees (index : RelationIndex) (entity : String) (fields : Entity) (key : String) :
    Prop where
  listed : key ∈ index.outgoing entity ↔
    ∀ e k available, index.resolve entity fields key ≠ .error (.noRelation e k available)
  leaves : key ∈ index.outgoing entity ↔ Leaves declared entity fields key
  ambiguous : ∀ e k, index.resolve entity fields key = .error (.ambiguousRelation e k) ↔
    e = entity ∧ k = key ∧ declared.contains key = true ∧ fields.contains key = true ∧
      ReachedBack declared entity key
  available : ∀ e k available,
    index.resolve entity fields key = .error (.noRelation e k available) →
    e = entity ∧ k = key ∧ available.Pairwise (· < ·) ∧
      (∀ other, other ∈ available ↔ Leaves declared entity fields other) ∧ key ∉ available
  incoming : key ∈ index.incoming entity ↔ ∃ r, index.get? key = some r ∧ r.target = entity
  target : ∀ r, index.resolve entity fields key = .ok r →
    ∃ known, entities.get? r.target = some known

theorem agrees_of_build (index : RelationIndex) (h : build entities declared = .ok index)
    (entity : String) (fields : Entity) (found : entities.get? entity = some fields)
    (key : String) : Agrees entities declared index entity fields key := by
  have hleaves := fun key => (mem_of_build entities declared index h entity fields found key).2
  have hcases := resolve_of_build entities declared index h entity fields key
  constructor
  case leaves => exact hleaves key
  case listed =>
    rw [hleaves key]
    rcases hcases with ⟨r, hr, hl, -⟩ | ⟨hr, hd, hf, -⟩ | ⟨hr, hl⟩
    · simp [hr, hl]
    · simp [hr, Leaves, hd, hf]
    · simp [hr, hl]
  case ambiguous =>
    intro e k
    rcases hcases with ⟨r, hr, -, honce⟩ | ⟨hr, hboth⟩ | ⟨hr, hl⟩
    · simp only [hr, reduceCtorEq, false_iff]
      exact fun h => honce h.2.2.2
    · simp [hr, hboth, eq_comm]
    · simp only [hr, Except.error.injEq, reduceCtorEq, false_iff]
      exact fun h => hl ⟨h.2.2.1, .inl h.2.2.2.1⟩
  case available =>
    intro e k available hr
    rcases hcases with ⟨r, hr', -, -⟩ | ⟨hr', -⟩ | ⟨hr', hl⟩
    · exact absurd (hr.symm.trans hr') (by simp)
    · exact absurd (hr.symm.trans hr') (by simp)
    · obtain ⟨rfl, rfl, rfl⟩ : e = entity ∧ k = key ∧ available = index.outgoing entity := by
        simpa using hr.symm.trans hr'
      exact ⟨rfl, rfl, KeySets.keysOf_ordered _ _, hleaves, fun hk => hl ((hleaves _).mp hk)⟩
  case incoming =>
    rw [(mem_of_build entities declared index h entity fields found key).1,
      (build_ok entities declared index h).2 key]
    cases declared.get? key <;> simp [declare]
  case target =>
    intro r hr
    obtain ⟨d, hd, -, rfl⟩ := (resolve_ok_iff entities declared index h _ _ _ _).mp hr
    have htarget := (build_ok entities declared index h).1 key d hd
    exact (Dictionary.contains_iff entities d.target).mp htarget

theorem stray_iff (key : String) (d : RelationDeclaration) :
    Stray entities declared key d ↔
      (key, d) ∈ declared.entries ∧ (!entities.contains d.target) = true := by
  have hnone : entities.get? d.target = none ↔ ¬entities.contains d.target = true := by
    rw [Dictionary.contains_iff]
    simp [Option.eq_none_iff_forall_ne_some]
  rw [Stray, Dictionary.mem_entries_iff, hnone]
  simp

/-- The relations are declared in the order of their keys, so the first one that leads nowhere is
the one with the smallest key. -/
theorem find_stray (x : String × RelationDeclaration)
    (h : declared.entries.find? (fun x => !entities.contains x.2.target) = some x) :
    Stray entities declared x.1 x.2 ∧ ∀ k d, Stray entities declared k d → x.1 ≤ k := by
  obtain ⟨hx, before, after, hsplit, hbefore⟩ := List.find?_eq_some_iff_append.mp h
  have hordered := declared.ordered
  refine ⟨(stray_iff ..).mpr ⟨hsplit ▸ by simp, hx⟩, fun k d hstray => ?_⟩
  obtain ⟨hmem, htarget⟩ := (stray_iff ..).mp hstray
  rw [Dictionary.Ordered, hsplit, List.pairwise_append, List.pairwise_cons] at hordered
  rw [hsplit, List.mem_append, List.mem_cons] at hmem
  rcases hmem with hmem | rfl | hmem
  · have hfound := hbefore _ hmem
    simp_all
  · exact String.le_refl _
  · exact String.not_lt.mp (String.lt_asymm (hordered.2.1.1 _ hmem))

/-- An index is built unless some relation leads to an entity that is not there, and then the
smallest key of these is named. What it lists for an entity, what it resolves at the entity and
what is declared agree on every key. -/
theorem index_agrees :
    ((∃ f, build entities declared = .error f) ↔ ∃ key d, Stray entities declared key d) ∧
    (∀ f, build entities declared = .error f →
      ∃ key d, Stray entities declared key d ∧
        (∀ k other, Stray entities declared k other → key ≤ k) ∧
        f = .unknownTarget key d.target) ∧
    ∀ index, build entities declared = .ok index →
      ∀ entity fields, entities.get? entity = some fields →
        ∀ key, Agrees entities declared index entity fields key := by
  have hfails : ∀ f, build entities declared = .error f →
      ∃ key d, Stray entities declared key d ∧
        (∀ k other, Stray entities declared k other → key ≤ k) ∧
        f = .unknownTarget key d.target := by
    intro f hf
    rw [build_eq_error_iff, addRelations_eq_error_iff] at hf
    obtain ⟨⟨key, d⟩, hfind, rfl⟩ := hf
    obtain ⟨hstray, hleast⟩ := find_stray entities declared _ hfind
    exact ⟨key, d, hstray, hleast, rfl⟩
  refine ⟨⟨?_, ?_⟩, hfails, agrees_of_build entities declared⟩
  · rintro ⟨f, hf⟩
    obtain ⟨key, d, hstray, -⟩ := hfails f hf
    exact ⟨key, d, hstray⟩
  · rintro ⟨key, d, hstray⟩
    cases hbuild : build entities declared with
    | error f => exact ⟨f, rfl⟩
    | ok index =>
      have htarget := (build_ok entities declared index hbuild).1 key d hstray.1
      obtain ⟨known, hknown⟩ := (Dictionary.contains_iff entities d.target).mp htarget
      exact absurd (hstray.2.symm.trans hknown) (by simp)

/-- A field named like a relation that leads back is listed and cannot be resolved. When two
relations lead nowhere, the smaller key is named. -/
theorem index_agrees_field :
    let entities := Dictionary.ofList
      [("posts", Dictionary.ofList [("comments(post)", FieldKind.json)]),
       ("comments", Dictionary.ofList [("post", FieldKind.relation)])]
    let declared := Dictionary.ofList
      [("post", ⟨"posts", false⟩), ("comments(post)", ⟨"comments", true⟩)]
    let broken := Dictionary.ofList
      [("post", ⟨"pages", false⟩), ("comments(post)", ⟨"notes", true⟩)]
    (∃ index fields, build entities declared = .ok index ∧
      entities.get? "posts" = some fields ∧ "comments(post)" ∈ index.outgoing "posts" ∧
      index.resolve "posts" fields "comments(post)" =
        .error (.ambiguousRelation "posts" "comments(post)")) ∧
    ∃ f key d, build entities broken = .error f ∧ f = .unknownTarget key d.target ∧
      Stray entities broken key d ∧ key ≤ "post" := by
  intro entities declared broken
  have hback : ReachedBack declared "posts" "comments(post)" :=
    ⟨"comments", "post", ⟨"posts", false⟩, ⟨by decide, by decide, by decide⟩, rfl, rfl⟩
  constructor
  · have hagrees := (index_agrees entities declared).2.2 _ rfl "posts" _ rfl "comments(post)"
    exact ⟨_, _, rfl, rfl, hagrees.leaves.mpr ⟨by decide, .inr hback⟩,
      (hagrees.ambiguous _ _).mpr ⟨rfl, rfl, by decide, by decide, hback⟩⟩
  · obtain ⟨key, d, hstray, hleast, hf⟩ := (index_agrees entities broken).2.1 _ rfl
    exact ⟨_, key, d, rfl, hf, hstray, hleast "post" ⟨"pages", false⟩ ⟨rfl, rfl⟩⟩

end RelationIndex

end RecordSelection
