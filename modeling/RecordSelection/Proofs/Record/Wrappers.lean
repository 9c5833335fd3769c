import Mathlib.Data.List.Forall2
import RecordSelection.Proofs.Record.Derived

/-!
# Wrappers around types

A type is taken apart in one way into the wrappers around it and the type inside them all. Further
wrappers around the type of a field change nothing of what is derived of the structure.
-/

set_option autoImplicit false

namespace RecordSelection

namespace TypeExpr

/-- A wrapper without the type in it: how its name is qualified and its arguments are opened, and
what comes after its first argument. -/
structure Wrapper where
  scope : String
  name : String
  opening : String
  rest : List TypeArgument
  trailing : Bool
  known : name ∈ ["Option", "Vec", "Box"]

def Wrapper.around (w : Wrapper) (t : TypeExpr) : TypeExpr :=
  .applied w.scope w.name w.opening (.type t :: w.rest) w.trailing

def wrapped (layers : List Wrapper) (t : TypeExpr) : TypeExpr := layers.foldr Wrapper.around t

def IsWrapped (t : TypeExpr) : Prop := ∃ (w : Wrapper) (inner : TypeExpr), t = w.around inner

/-- A type is a part of itself and of every type that has it in an argument. -/
inductive IsPart (t : TypeExpr) : TypeExpr → Prop where
  | self : IsPart t t
  | argument {scope name opening : String} {arguments : List TypeArgument} {trailing : Bool}
      {inner : TypeExpr} (given : .type inner ∈ arguments) (part : IsPart t inner) :
      IsPart t (.applied scope name opening arguments trailing)

theorem unwrap_around (w : Wrapper) (t : TypeExpr) : (w.around t).unwrap = t.unwrap := by
  rw [Wrapper.around, unwrap, if_pos ((isWrapper_iff w.name).mpr w.known)]

theorem unwrap_wrapped (layers : List Wrapper) (t : TypeExpr) :
    (wrapped layers t).unwrap = t.unwrap := by
  induction layers with
  | nil => rfl
  | cons w layers ih => exact (unwrap_around w _).trans ih

theorem isPart_wrapped (layers : List Wrapper) (t : TypeExpr) : IsPart t (wrapped layers t) := by
  induction layers with
  | nil => exact .self
  | cons w layers ih => exact .argument List.mem_cons_self ih

theorem Unwraps.exists_layers {t u : TypeExpr} (h : Unwraps t u) :
    ∃ layers, t = wrapped layers u := by
  induction h with
  | @wrapper scope name opening inner t rest trailing known unwraps ih =>
    obtain ⟨layers, rfl⟩ := ih
    exact ⟨⟨scope, name, opening, rest, trailing, known⟩ :: layers, rfl⟩
  | bare unwrapped => exact ⟨[], rfl⟩

theorem Unwraps.not_isWrapped {t u : TypeExpr} (h : Unwraps t u) : ¬u.IsWrapped := by
  induction h with
  | wrapper known unwraps ih => exact ih
  | bare unwrapped =>
    rintro ⟨w, inner, h⟩
    exact unwrapped _ _ _ _ _ _ w.known h

/-- What is inside all wrappers is the type that is no wrapper itself and that wrappers lead to. -/
theorem unwrap_eq_iff (t u : TypeExpr) :
    t.unwrap = u ↔ (∃ layers, t = wrapped layers u) ∧ ¬u.IsWrapped := by
  constructor
  · intro h
    have hunwraps := (unwraps_iff t u).mpr h
    exact ⟨hunwraps.exists_layers, hunwraps.not_isWrapped⟩
  · rintro ⟨⟨layers, rfl⟩, hbare⟩
    rw [unwrap_wrapped]
    obtain ⟨layers', hlayers⟩ := (unwraps_unwrap u).exists_layers
    cases layers' with
    | nil => exact hlayers.symm
    | cons w layers' => exact absurd ⟨w, _, hlayers⟩ hbare

end TypeExpr

open TypeExpr

def DeclaredField.inside (layers : List Wrapper) (field : DeclaredField) : DeclaredField :=
  { field with type := wrapped layers field.type }

def DeclaredField.WrappedAs (field other : DeclaredField) : Prop :=
  ∃ layers, other = field.inside layers

namespace Declaration

theorem relations_of_wrapped {fields others : List DeclaredField}
    (h : List.Forall₂ DeclaredField.WrappedAs fields others) :
    relations others = relations fields := by
  induction h with
  | nil => rfl
  | cons hfield _ ih =>
    obtain ⟨layers, rfl⟩ := hfield
    simp only [relations, ih, DeclaredField.inside, wireName, unwrap_wrapped]

theorem projection_of_wrapped {fields others : List DeclaredField}
    (h : List.Forall₂ DeclaredField.WrappedAs fields others) (before : Option TypeExpr) :
    projection before others = projection before fields := by
  induction h generalizing before with
  | nil => rfl
  | cons hfield _ ih =>
    obtain ⟨layers, rfl⟩ := hfield
    simp only [projection, ih, DeclaredField.inside, wireName, unwrap_wrapped]

/-- Wrappers of any qualification, with any further arguments and nested in any way leave the type
inside as it is. That type is a part of the whole, is reached through wrappers alone, and is no
wrapper around a type, so that nothing is left to unwrap. What is derived of a structure stays the
same when the types of its fields are wrapped further. -/
theorem wrappers_unseen :
    (∀ layers t, (wrapped layers t).unwrap = t.unwrap) ∧
    (∀ t : TypeExpr, t.unwrap.unwrap = t.unwrap ∧ IsPart t.unwrap t ∧
      (∃ layers, t = wrapped layers t.unwrap) ∧ ¬t.unwrap.IsWrapped) ∧
    ∀ (d : Declaration) (fields : List DeclaredField),
      List.Forall₂ DeclaredField.WrappedAs d.fields fields →
        deriveExpansion { d with fields } = d.deriveExpansion ∧
        deriveRecord { d with fields } = d.deriveRecord := by
  refine ⟨unwrap_wrapped, fun t => ?_, fun d fields h => ⟨?_, ?_⟩⟩
  · obtain ⟨⟨layers, hlayers⟩, hbare⟩ := (unwrap_eq_iff t _).mp rfl
    have hidem : t.unwrap.unwrap = t.unwrap := (unwrap_eq_iff _ _).mpr ⟨⟨[], rfl⟩, hbare⟩
    have hpart := isPart_wrapped layers t.unwrap
    rw [← hlayers] at hpart
    exact ⟨hidem, hpart, ⟨layers, hlayers⟩, hbare⟩
  · simp only [deriveExpansion, relations_of_wrapped h]
  · simp only [deriveRecord, projection_of_wrapped h]

/-- A qualified wrapper around one with a second argument. A lifetime in the first place keeps a type
from being taken out. -/
theorem wrappers_unseen_comments :
    let maybe : Wrapper := ⟨"std::option::", "Option", "<", [], false, by decide⟩
    let list : Wrapper := ⟨"", "Vec", "::<", [.type (.other "Global")], true, by decide⟩
    let borrowed : TypeExpr :=
      .applied "" "Option" "<" [.lifetime "'a", .type (.other "Comment")] false
    let comments : DeclaredField := ⟨"comments", .other "Comment", [[⟨"skip", none⟩]]⟩
    let expand : DeclaredField := ⟨"expand", borrowed, [[⟨"expand", none⟩]]⟩
    let d : Declaration := { name := "Post", fields := [comments, expand] }
    let fields := [comments.inside [maybe, list], expand.inside [list, maybe, list]]
    List.Forall₂ DeclaredField.WrappedAs d.fields fields ∧
      deriveExpansion { d with fields } = .ok [("expand", borrowed)] ∧
      deriveRecord { d with fields } = .ok ⟨"post", some [], some borrowed⟩ := by
  intro maybe list borrowed comments expand d fields
  have hwrapped : List.Forall₂ DeclaredField.WrappedAs d.fields fields :=
    .cons ⟨[maybe, list], rfl⟩ (.cons ⟨[list, maybe, list], rfl⟩ .nil)
  obtain ⟨hexpansion, hrecord⟩ := wrappers_unseen.2.2 d fields hwrapped
  refine ⟨hwrapped, ?_, ?_⟩
  · rw [hexpansion]
    simp only [d, comments, expand, borrowed]
    rfl
  · rw [hrecord]
    simp only [d, comments, expand, borrowed]
    rfl

end Declaration

end RecordSelection
