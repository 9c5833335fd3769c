import Mathlib.Data.List.TakeWhile
import RecordSelection.Proofs.Dictionary
import RecordSelection.Schema.Document

/-!
# Resolving relations

A schema resolves a key at an entity exactly when the key is declared and reached in one of the
two ways but not in both. This is said of the declarations; the index that is built from them in
two passes does not appear.
-/

set_option autoImplicit false

namespace RecordSelection

/-- The key has the form `name(via)`. -/
structure BackKey (key name via : String) : Prop where
  text : key = name ++ "(" ++ via ++ ")"
  closed : '(' ∉ name.toList
  inside : via ≠ ""

theorem splitBack?_append (name via : String) (hname : '(' ∉ name.toList) :
    splitBack? (name ++ "(" ++ via ++ ")") = if via = "" then none else some (name, via) := by
  have hkey : (name ++ "(" ++ via ++ ")").toList.reverse =
      ')' :: (name.toList ++ '(' :: via.toList).reverse := by
    simp
  have hbefore : ∀ c ∈ name.toList, decide (c ≠ '(') = true := by
    intro c hc
    have hne : c ≠ '(' := fun h => hname (h ▸ hc)
    simpa using hne
  unfold splitBack?
  rw [hkey]
  simp only [List.reverse_reverse]
  rw [List.dropWhile_append_of_pos hbefore, List.takeWhile_append_of_pos hbefore]
  simp

theorem form_of_splitBack? (key : String) (p : String × String) (h : splitBack? key = some p) :
    ∃ name via, key = name ++ "(" ++ via ++ ")" ∧ '(' ∉ name.toList := by
  unfold splitBack? at h
  split at h
  · rename_i reversed hreversed
    by_cases hmem : '(' ∈ reversed.reverse
    · obtain ⟨front, back, hsplit, hfront⟩ := List.eq_append_cons_of_mem hmem
      refine ⟨String.ofList front, String.ofList back, ?_, by simpa using hfront⟩
      apply String.toList_injective
      rw [← List.reverse_reverse key.toList, hreversed, List.reverse_cons, hsplit]
      simp
    · have hdrop : reversed.reverse.dropWhile (fun c => decide (c ≠ '(')) = [] := by
        rw [List.dropWhile_eq_nil_iff]
        intro c hc
        have hne : c ≠ '(' := fun h => hmem (h ▸ hc)
        simpa using hne
      simp only [hdrop, reduceCtorEq] at h
  · simp at h

theorem splitBack?_eq_some_iff (key name via : String) :
    splitBack? key = some (name, via) ↔ BackKey key name via := by
  constructor
  · intro h
    obtain ⟨name', via', rfl, hname⟩ := form_of_splitBack? key _ h
    rw [splitBack?_append name' via' hname] at h
    split at h
    · simp at h
    · rename_i hvia
      obtain ⟨rfl, rfl⟩ := Prod.mk.inj (Option.some.inj h)
      exact ⟨rfl, hname, hvia⟩
  · rintro ⟨rfl, hname, hvia⟩
    rw [splitBack?_append name via hname, if_neg hvia]

example : splitBack? "replies(comments(post))" = some ("replies", "comments(post)") := by decide

def ReachedBack (declared : Dictionary RelationDeclaration) (entity key : String) : Prop :=
  ∃ name via other,
    BackKey key name via ∧ declared.get? via = some other ∧ other.target = entity

def ReachedOnce (declared : Dictionary RelationDeclaration) (entity : String) (fields : Entity)
    (key : String) : Prop :=
  Xor (fields.contains key = true) (ReachedBack declared entity key)

theorem RelationDeclaration.cardinality_eq_many_iff (d : RelationDeclaration) :
    d.cardinality = .many ↔ d.many = true := by
  unfold cardinality
  split <;> simp [*]

namespace RelationIndex

def declare (declared : Dictionary RelationDeclaration) (key : String)
    (d : RelationDeclaration) : Relation :=
  ⟨key, d.target, d.cardinality, directionOf declared key⟩

/-- A key leads back exactly through the declared relation that it names, from where that one
leads. -/
theorem directionOf_eq_back_iff (declared : Dictionary RelationDeclaration)
    (key via source : String) :
    directionOf declared key = .back via source ↔
      ∃ name other,
        BackKey key name via ∧ declared.get? via = some other ∧ other.target = source := by
  constructor
  · intro h
    unfold directionOf at h
    split at h
    · rename_i name via' hsplit
      split at h
      · rename_i other hother
        obtain ⟨rfl, rfl⟩ := Direction.back.inj h
        exact ⟨name, other, (splitBack?_eq_some_iff ..).mp hsplit, hother, rfl⟩
      · simp at h
    · simp at h
  · rintro ⟨name, other, hkey, hother, rfl⟩
    simp [directionOf, (splitBack?_eq_some_iff key name via).mpr hkey, hother]

theorem isBackFrom_declare (declared : Dictionary RelationDeclaration) (entity key : String)
    (d : RelationDeclaration) :
    (declare declared key d).isBackFrom entity = true ↔ ReachedBack declared entity key := by
  have hback : (declare declared key d).isBackFrom entity = true ↔
      ∃ via, directionOf declared key = .back via entity := by
    unfold declare Relation.isBackFrom
    dsimp only
    cases directionOf declared key <;> simp
  rw [hback]
  simp only [directionOf_eq_back_iff]
  exact exists_comm

theorem addRelations_ok (entities : Dictionary Entity) (declared : Dictionary RelationDeclaration)
    (entries : List (String × RelationDeclaration)) (hentries : Dictionary.Ordered entries)
    (index index' : RelationIndex)
    (h : addRelations entities declared entries index = .ok index') :
    (∀ entry ∈ entries, entities.contains entry.2.target = true) ∧
      ∀ key, index'.get? key =
        ((Dictionary.find key entries).map (declare declared key)).or (index.get? key) := by
  induction entries generalizing index with
  | nil =>
    obtain rfl := Except.ok.inj h
    simp
  | cons entry rest ih =>
    obtain ⟨k, d⟩ := entry
    obtain ⟨hfirst, hrest⟩ := List.pairwise_cons.mp hentries
    by_cases htarget : entities.contains d.target = true
    · simp only [addRelations, addRelation, htarget, if_true] at h
      obtain ⟨htargets, hget⟩ := ih hrest _ h
      refine ⟨List.forall_mem_cons.mpr ⟨htarget, htargets⟩, fun key => ?_⟩
      rw [hget key, Dictionary.find_cons]
      -- The entries are in order, so that no later one replaces the relation under this key.
      by_cases hkey : k = key
      · have habsent : Dictionary.find key rest = none := by
          rw [Option.eq_none_iff_forall_ne_some]
          intro v hv
          have hmem := (Dictionary.mem_iff_find rest hrest key v).mpr hv
          exact String.lt_irrefl key (hkey ▸ hfirst _ hmem)
        simp [habsent, hkey, get?, Dictionary.get?_insert, declare]
      · simp [hkey, get?, Dictionary.get?_insert]
    · simp [addRelations, addRelation, htarget, bind, Except.bind] at h

theorem get?_addFields (entries : List (String × Entity)) (index : RelationIndex) (key : String) :
    (entries.foldl (fun index entry => index.addFields entry.1 entry.2) index).get? key =
      index.get? key := by
  induction entries generalizing index with
  | nil => rfl
  | cons entry rest ih => exact ih (index.addFields entry.1 entry.2)

theorem build_ok (entities : Dictionary Entity) (declared : Dictionary RelationDeclaration)
    (index : RelationIndex) (h : build entities declared = .ok index) :
    (∀ key d, declared.get? key = some d → entities.contains d.target = true) ∧
      ∀ key, index.get? key = (declared.get? key).map (declare declared key) := by
  cases hadd : addRelations entities declared declared.entries {} with
  | error fault => simp [build, hadd, bind, Except.bind] at h
  | ok added =>
    obtain ⟨htargets, hget⟩ := addRelations_ok entities declared _ declared.ordered _ _ hadd
    obtain rfl : _ = index := by simpa [build, hadd, bind, Except.bind, pure, Except.pure] using h
    constructor
    · intro key d hd
      exact htargets (key, d) ((Dictionary.mem_entries_iff declared key d).mpr hd)
    · intro key
      rw [get?_addFields, hget, ← Dictionary.get?_eq_find]
      simp [get?]

theorem resolve_eq_ok_iff (index : RelationIndex) (entity : String) (fields : Entity)
    (key : String) (r : Relation) :
    index.resolve entity fields key = .ok r ↔
      index.get? key = some r ∧ Xor (fields.contains key = true) (r.isBackFrom entity = true) := by
  unfold resolve
  cases hget : index.get? key with
  | none => simp
  | some relation =>
    by_cases hr : relation = r
    · subst hr
      cases fields.contains key <;> cases hback : relation.isBackFrom entity <;>
        simp [xor_def, hback]
    · cases fields.contains key <;> cases hback : relation.isBackFrom entity <;>
        simp [hr, hback]

/-- A key resolves exactly when it is declared and reached once, to the relation declared. -/
theorem resolve_ok_iff (entities : Dictionary Entity) (declared : Dictionary RelationDeclaration)
    (index : RelationIndex) (h : build entities declared = .ok index) (entity : String)
    (fields : Entity) (key : String) (r : Relation) :
    index.resolve entity fields key = .ok r ↔
      ∃ d, declared.get? key = some d ∧ ReachedOnce declared entity fields key ∧
        r = declare declared key d := by
  rw [resolve_eq_ok_iff, (build_ok entities declared index h).2 key]
  constructor
  · rintro ⟨hget, honce⟩
    obtain ⟨d, hd, rfl⟩ := Option.map_eq_some_iff.mp hget
    rw [isBackFrom_declare] at honce
    exact ⟨d, hd, honce, rfl⟩
  · rintro ⟨d, hd, honce, rfl⟩
    rw [isBackFrom_declare]
    exact ⟨by rw [hd, Option.map_some], honce⟩

end RelationIndex

theorem ofDeclarations_ok (entities : Dictionary Entity)
    (declared : Dictionary RelationDeclaration) (s : Schema)
    (h : Schema.ofDeclarations entities declared = .ok s) :
    s.entities = entities ∧ RelationIndex.build entities declared = .ok s.relations := by
  cases hbuild : RelationIndex.build entities declared with
  | error fault => simp [Schema.ofDeclarations, hbuild, bind, Except.bind] at h
  | ok index =>
    obtain rfl : _ = s := by
      simpa [Schema.ofDeclarations, hbuild, bind, Except.bind, pure, Except.pure] using h
    exact ⟨rfl, rfl⟩

theorem target_known (entities : Dictionary Entity) (declared : Dictionary RelationDeclaration)
    (s : Schema) (h : Schema.ofDeclarations entities declared = .ok s) (key : String)
    (d : RelationDeclaration) (hd : declared.get? key = some d) :
    ∃ known, entities.get? d.target = some known := by
  have hbuild := (ofDeclarations_ok entities declared s h).2
  have htargets := (RelationIndex.build_ok entities declared _ hbuild).1
  exact (Dictionary.contains_iff entities d.target).mp (htargets key d hd)

end RecordSelection
