import RecordSelection.Json.Reading
import RecordSelection.Json.Render
import RecordSelection.Selection.Basic

/-!
Selection trees as JSON. What is absent is not written; a null reads as absent, and an empty list
of fields stays apart from none.
-/

set_option autoImplicit false

namespace RecordSelection.Selection

mutual

def toJson : Selection → Json
  | ⟨key, fields, expand, sort, filter, requestKey⟩ =>
    .object (
      [("key", .text key)]
      ++ Json.optional "fields" Json.texts fields
      ++ (match expand with
        | [] => []
        | child :: rest => [("expand", .list (toJson child :: allToJson rest))])
      ++ Json.optional "sort" .text sort
      ++ Json.optional "filter" .text filter
      ++ Json.optional "requestKey" .text requestKey)

def allToJson : List Selection → List Json
  | [] => []
  | child :: rest => toJson child :: allToJson rest

end

open Json Json.Reader in
def members (child : Reader Selection) : List (Member Selection) := [
  field "key" .wanted text fun value node => { node with key := value },
  field "fields" .defaulted (optional (list text)) fun value node => { node with fields := value },
  field "expand" .defaulted (optional (list child)) fun value node =>
    { node with expand := value.getD [] },
  field "sort" .defaulted (optional text) fun value node => { node with sort := value },
  field "filter" .defaulted (optional text) fun value node => { node with filter := value },
  field "requestKey" .defaulted (optional text) fun value node =>
    { node with requestKey := value }]

def reader : Nat → Json.Reader Selection
  | 0 => fun _ _ => .error .tooDeep
  | levels + 1 => Json.Reader.record "SelectionNode" (members (reader levels)) (ofKey "")

/-- Reads a tree from its text. No text nests containers so deep that the levels run out. -/
def read (s : String) : Except Json.Fault Selection := Json.read (reader (Json.maxNesting + 1)) s

def write (s : Selection) : String := s.toJson.render

def readsBack (s : Selection) : Bool :=
  match read s.write with
  | .ok again => again == s
  | .error _ => false

end RecordSelection.Selection
