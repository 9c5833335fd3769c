/-!
Type expressions, as far as the fields of a declaration need them: a path that ends in a name with
arguments in angle brackets, or any other type as its text. `Option`, `Vec` and `Box` around a
type say how many records there are and where they are kept; without them remains the type of one
record.
-/

set_option autoImplicit false

namespace RecordSelection

mutual

inductive TypeExpr where
  | applied (scope name opening : String) (arguments : List TypeArgument) (trailing : Bool)
  | other (text : String)

inductive TypeArgument where
  | type (value : TypeExpr)
  | lifetime (text : String)
  | other (text : String)

end

instance : Inhabited TypeExpr := ⟨.other ""⟩

namespace TypeExpr

/-- Lifetimes are written before all other arguments, in any order they were given. -/
def lifetimesFirst {α : Type} (isLifetime : α → Bool) (parts : List α) : List α :=
  parts.filter isLifetime ++ parts.filter (!isLifetime ·)

/-- A comma follows the last argument if one did when it was read, and also the argument that
comes last because a lifetime after it was moved to the front. -/
def endsInComma {α : Type} (isLifetime : α → Bool) (trailing : Bool) (parts : List α) : Bool :=
  trailing || (parts.getLast?.any isLifetime && parts.any (!isLifetime ·))

def closing (comma : Bool) : String := if comma then ",>" else ">"

mutual

def text : TypeExpr → String
  | .applied scope name opening arguments trailing =>
    let texts := argumentTexts arguments
    scope ++ name ++ opening ++ ",".intercalate ((lifetimesFirst Prod.fst texts).map Prod.snd)
      ++ closing (endsInComma Prod.fst trailing texts)
  | .other s => s

def argumentTexts : List TypeArgument → List (Bool × String)
  | [] => []
  | .type t :: rest => (false, text t) :: argumentTexts rest
  | .lifetime s :: rest => (true, s) :: argumentTexts rest
  | .other s :: rest => (false, s) :: argumentTexts rest

end

def isWrapper (name : String) : Bool := name == "Option" || name == "Vec" || name == "Box"

/-- The type inside all wrappers. A wrapper is left by its first argument, if that is a type. -/
def unwrap : TypeExpr → TypeExpr
  | .applied scope name opening (.type inner :: rest) trailing =>
    if isWrapper name then unwrap inner
    else .applied scope name opening (.type inner :: rest) trailing
  | t => t

end TypeExpr

end RecordSelection
