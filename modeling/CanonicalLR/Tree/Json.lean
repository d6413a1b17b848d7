import CanonicalLR.Table.Json
import CanonicalLR.Tree

/-! Parse trees as JSON. -/
namespace CanonicalLR

open Json (Value)

namespace Position

def toJson (p : Position) : Value :=
  .ofMembers [("index", .ofNat p.index), ("row", .ofNat p.row), ("column", .ofNat p.column),
    ("length", .ofNat p.length)]

def ofJson? (v : Value) : Option Position := do
  match ← (← Json.fields? ["index", "row", "column", "length"] v).mapM
      (Value.toNatBelow? countLimit) with
  | [index, row, column, length] => return ⟨index, row, column, length⟩
  | _ => none

end Position

namespace Token

def toJson (t : Token) : Value :=
  .ofMembers [("name", .ofString t.name), ("content", .ofString t.content),
    ("position", t.position.toJson)]

def ofJson? (v : Value) : Option Token := do
  match ← Json.fields? ["name", "content", "position"] v with
  | [name, content, position] =>
    return ⟨← name.toString?, ← content.toString?, ← Position.ofJson? position⟩
  | _ => none

end Token

namespace Tree

mutual

def toJson : Tree → Value
  | leaf token => .ofMembers [("type", .ofString "leaf"), ("token", token.toJson)]
  | node expression alternative children =>
    .ofMembers [("type", .ofString "expression"), ("expression", .ofString expression),
      ("alternative", .ofNat alternative), ("children", .array (toJsonAll children))]

def toJsonAll : List Tree → List Value
  | [] => []
  | t :: ts => t.toJson :: toJsonAll ts

end

/-- The two forms of a tree. -/
inductive Form where
  | leaf
  | node

/-- The form that a tag names. Inside another tree the number of the form will do. -/
def formOfTag? (inner : Bool) (tag : Value) : Option Form :=
  match tag.toString? with
  | some "leaf" => some .leaf
  | some "expression" => some .node
  | some _ => none
  | none =>
    if inner then match tag.toNatBelow? 2 with
      | some 0 => some .leaf
      | some 1 => some .node
      | _ => none
    else none

def ofJsonBelow? : Nat → Bool → Value → Option Tree
  | 0, _, _ => none
  | fuel + 1, inner, v => do
    let (tag, content) ← Json.tagged? v
    match ← formOfTag? inner tag with
    | .leaf => match ← Json.fields? ["token"] content with
      | [token] => return .leaf (← Token.ofJson? token)
      | _ => none
    | .node => match ← Json.fields? ["expression", "alternative", "children"] content with
      | [expression, alternative, .array children] =>
        return .node (← expression.toString?) (← alternative.toNatBelow? countLimit)
          (← children.mapM (ofJsonBelow? fuel true))
      | _ => none

/-- Reads a tree. It is nested less deeply than the limit. -/
def ofJson? (v : Value) : Option Tree :=
  if Json.admitted 0 v then ofJsonBelow? Json.depthLimit false v else none

def encode (t : Tree) : String := t.toJson.render

def decode? (text : String) : Option Tree := do
  ofJson? (← Json.parse text)

end Tree

end CanonicalLR
