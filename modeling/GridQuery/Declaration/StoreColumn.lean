import GridQuery.Declaration.Basic
import GridQuery.Declaration.Grammar

/-!
# Columns of the store

The name of a column that an attribute of the store gives to a field. Such an attribute is not refused: one
with an argument that is neither a path, a path with brackets nor a path with a value is passed over.
-/

namespace GridQuery.Declaration

/-- The arguments that tokens are, at most `count` of them. A comma may stand at the end. -/
def storeArgumentsUpTo? : Nat → List Token → Option (List (List Token))
  | _, [] => some []
  | 0, _ :: _ => none
  | count + 1, token :: tokens =>
      ((Rule.part .content).rest? (token :: tokens)).bind fun rest =>
        let argument := (token :: tokens).take (tokens.length + 1 - rest.length)
        match rest with
        | [] => some [argument]
        | .sign ',' _ :: rest => (storeArgumentsUpTo? count rest).map (argument :: ·)
        | _ => none

/-- The arguments that tokens are. Every one of them takes a token. -/
def storeArguments? (tokens : List Token) : Option (List (List Token)) :=
  storeArgumentsUpTo? tokens.length tokens

/-- The column that an argument names. -/
def columnOfArgument? : List Token → Option String
  | [.word key, .sign '=' _, .text column] => if key = "column_name" then some column else none
  | _ => none

/-- The column that an attribute of the store names. -/
def Attribute.storeColumn? (entry : Attribute) : Option String :=
  if entry.name = "sea_orm" then
    match entry.content with
    | .arguments tokens => (storeArguments? tokens).bind (·.findSome? columnOfArgument?)
    | _ => none
  else
    none

/-- The first column that attributes of the store name. -/
def storeColumn? (attributes : List Attribute) : Option String :=
  attributes.findSome? Attribute.storeColumn?

end GridQuery.Declaration
