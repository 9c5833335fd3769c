import RecordSelection.Shape.Basic
import RecordSelection.Text.Quoted

/-!
A shape as a type, in one line. Names made of letters, digits and underscores stand for
themselves, all others are quoted.
-/

set_option autoImplicit false

namespace RecordSelection.Shape

def isPlain (c : Char) : Bool := c.isAlphanum || c == '_'

def renderKey (key : String) : String :=
  if key.toList.all isPlain then key else Text.quoted key

def renderField (f : ShapeField) : String := renderKey f.name ++ ": " ++ f.kind.name

def braced (parts : List String) : String :=
  if parts.isEmpty then "\x7b\x7d" else "\x7b " ++ "; ".intercalate parts ++ " \x7d"

mutual

def render : Shape → String
  | ⟨_, _, fields, expand⟩ =>
    braced (fields.map renderField ++ (match expand with
      | [] => []
      | first :: rest => ["expand: " ++ braced (renderAll (first :: rest))]))

def renderAll : List (Expanded Shape) → List String
  | [] => []
  | ⟨key, cardinality, shape⟩ :: rest =>
    (renderKey key ++ ": " ++ (match cardinality with
      | .one => render shape
      | .many => "Array<" ++ render shape ++ ">")) :: renderAll rest

end

end RecordSelection.Shape
