/-!
Why a schema is refused, or a selection does not fit its schema.
-/

set_option autoImplicit false

namespace RecordSelection

inductive SchemaFault where
  | unknownEntity (name : String)
  | unknownField (entity field : String)
  | repeatedField (entity field : String)
  | noRelation (entity key : String) (available : List String)
  | ambiguousRelation (entity key : String)
  | repeatedRelation (entity key : String)
  | unknownTarget (relation target : String)
  | unreadable (reason : String)
  deriving DecidableEq, Repr

def SchemaFault.message : SchemaFault → String
  | .unknownEntity name => "Unknown entity '" ++ name ++ "'"
  | .unknownField entity field => "Unknown field '" ++ field ++ "' on '" ++ entity ++ "'"
  | .repeatedField entity field => "Field '" ++ field ++ "' selected twice on '" ++ entity ++ "'"
  | .noRelation entity key available =>
    let head := "'" ++ entity ++ "' has no relation '" ++ key ++ "'"
    if available.isEmpty then head
    else head ++ " (available: " ++ ", ".intercalate available ++ ")"
  | .ambiguousRelation entity key =>
    "Relation '" ++ key ++ "' on '" ++ entity
      ++ "' is both a forward relation and a back-relation"
  | .repeatedRelation entity key =>
    "Relation '" ++ key ++ "' expanded twice on '" ++ entity ++ "'"
  | .unknownTarget relation target =>
    "Relation '" ++ relation ++ "' targets unknown entity '" ++ target ++ "'"
  | .unreadable reason => "Invalid schema: " ++ reason

end RecordSelection
