import RecordSelection.Proofs.Schema.Relations

/-!
# Directions of relations

A key that leads back is taken apart at its first opening parenthesis and its last closing one, so
that there is no second way to read it, however parentheses are nested in it. The index records a
relation as one that leads back exactly when its key can be read so through a declared relation.
-/

set_option autoImplicit false

namespace RecordSelection

theorem BackKey.unique {key name via name' via' : String} (h : BackKey key name via)
    (h' : BackKey key name' via') : name = name' ∧ via = via' := by
  have hsplit := (splitBack?_eq_some_iff key name via).mpr h
  have hsplit' := (splitBack?_eq_some_iff key name' via').mpr h'
  exact Prod.mk.inj (Option.some.inj (hsplit.symm.trans hsplit'))

namespace RelationIndex

variable (entities : Dictionary Entity) (declared : Dictionary RelationDeclaration)

theorem get?_of_build (index : RelationIndex) (h : build entities declared = .ok index)
    (key : String) (r : Relation) :
    index.get? key = some r ↔ ∃ d, declared.get? key = some d ∧ declare declared key d = r := by
  rw [(build_ok entities declared index h).2 key, Option.map_eq_some_iff]

theorem exists_source_iff (key via : String) :
    (∃ source, directionOf declared key = .back via source) ↔
      declared.contains via = true ∧ ∃ name, BackKey key name via := by
  rw [Dictionary.contains_iff]
  constructor
  · rintro ⟨source, h⟩
    obtain ⟨name, other, hkey, hother, -⟩ := (directionOf_eq_back_iff ..).mp h
    exact ⟨⟨other, hother⟩, name, hkey⟩
  · rintro ⟨⟨other, hother⟩, name, hkey⟩
    exact ⟨other.target, (directionOf_eq_back_iff ..).mpr ⟨name, other, hkey, hother, rfl⟩⟩

/-- A key is split into a name and a relation exactly when it has the form `name(via)`, with no
opening parenthesis in the name and something inside, and it has that form in one way only. A
relation of an index that was built leads back through another one exactly when its key has the
form and the other one is declared; its source is then where the other one leads. -/
theorem leads_back_iff_named :
    (∀ key name via, splitBack? key = some (name, via) ↔
      key = name ++ "(" ++ via ++ ")" ∧ '(' ∉ name.toList ∧ via ≠ "") ∧
    (∀ key name via name' via', BackKey key name via → BackKey key name' via' →
      name = name' ∧ via = via') ∧
    ∀ index, build entities declared = .ok index →
      (∀ key, (∃ r, index.get? key = some r) ↔ ∃ d, declared.get? key = some d) ∧
      ∀ key r, index.get? key = some r →
        (∀ via, (∃ source, r.direction = .back via source) ↔
          declared.contains via = true ∧ ∃ name, BackKey key name via) ∧
        ∀ via source, r.direction = .back via source →
          ∃ other, declared.get? via = some other ∧ source = other.target := by
  refine ⟨fun key name via => ?_, fun key name via name' via' h h' => h.unique h', ?_⟩
  · rw [splitBack?_eq_some_iff]
    exact ⟨fun h => ⟨h.text, h.closed, h.inside⟩, fun h => ⟨h.1, h.2.1, h.2.2⟩⟩
  · intro index h
    have hget := get?_of_build entities declared index h
    constructor
    · intro key
      simp only [hget]
      rw [exists_comm]
      simp
    · intro key r hr
      obtain ⟨d, -, rfl⟩ := (hget key r).mp hr
      refine ⟨exists_source_iff declared key, fun via source hback => ?_⟩
      obtain ⟨-, other, -, hother, htarget⟩ := (directionOf_eq_back_iff ..).mp hback
      exact ⟨other, hother, htarget.symm⟩

/-- A relation that leads back through one that leads back itself, and through no other. -/
theorem leads_back_through_back :
    let entities := Dictionary.ofList
      [("posts", (.empty : Entity)), ("comments", .empty), ("replies", .empty)]
    let declared := Dictionary.ofList
      [("post", ⟨"posts", false⟩), ("comments(post)", ⟨"comments", true⟩),
       ("replies(comments(post))", ⟨"replies", true⟩)]
    ∃ index r, build entities declared = .ok index ∧
      index.get? "replies(comments(post))" = some r ∧
      (∃ source, r.direction = .back "comments(post)" source) ∧
      (∀ source, r.direction = .back "comments(post)" source → source = "comments") ∧
      ∀ via source, r.direction = .back via source → via = "comments(post)" := by
  intro entities declared
  obtain ⟨-, hunique, hbuild⟩ := leads_back_iff_named entities declared
  have hkey : BackKey "replies(comments(post))" "replies" "comments(post)" :=
    ⟨by decide, by decide, by decide⟩
  obtain ⟨-, hdirection⟩ := hbuild _ rfl
  obtain ⟨hthrough, hsource⟩ := hdirection "replies(comments(post))" _ rfl
  refine ⟨_, _, rfl, rfl, (hthrough _).mpr ⟨by decide, "replies", hkey⟩, ?_, ?_⟩
  · intro source h
    obtain ⟨other, hother, rfl⟩ := hsource _ _ h
    obtain rfl : (⟨"comments", true⟩ : RelationDeclaration) = other :=
      Option.some.inj hother
    rfl
  · intro via source h
    obtain ⟨-, name, hname⟩ := (hthrough via).mp ⟨source, h⟩
    exact (hunique _ _ _ _ _ hname hkey).2

end RelationIndex

end RecordSelection
