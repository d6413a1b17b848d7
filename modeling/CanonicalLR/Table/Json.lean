import CanonicalLR.Json.Reader
import CanonicalLR.Json.Writer
import CanonicalLR.Table

/-! Parse tables as JSON. -/
namespace CanonicalLR

open Json (Value)

/-- State numbers stay below this. -/
def stateLimit : Nat := Nat.pow 2 32

/-- Counts and positions stay below this. -/
def countLimit : Nat := Nat.pow 2 64

namespace Action

def toJson : Action → Value
  | shift state => .ofMembers [("type", .ofString "shift"), ("state", .ofNat state)]
  | reduce expression alternative len =>
    .ofMembers [("type", .ofString "reduce"), ("expression", .ofString expression),
      ("alternative", .ofNat alternative), ("len", .ofNat len)]
  | accept => .ofMembers [("type", .ofString "accept")]

/-- Reads an action. In a table it stands four levels deep. -/
def ofJson? (v : Value) : Option Action := do
  if !Json.admitted 4 v then none
  let (tag, content) ← Json.tagged? v
  match ← tag.toString? with
  | "shift" => match ← Json.fields? ["state"] content with
    | [state] => return .shift (← state.toNatBelow? stateLimit)
    | _ => none
  | "reduce" => match ← Json.fields? ["expression", "alternative", "len"] content with
    | [expression, alternative, len] =>
      return .reduce (← expression.toString?) (← alternative.toNatBelow? countLimit)
        (← len.toNatBelow? countLimit)
    | _ => none
  | "accept" => match content with
    | .array (_ :: _) => none
    | _ => return .accept
  | _ => none

end Action

def textEntries? {ν : Type} (read : Value → Option ν) : Value → Option (List (String × ν))
  | .object members => members.mapM fun (key, v) => do
    return (String.ofList (← Json.unescape key), ← read v)
  | _ => none

/-- A state number as a key: decimal digits without escapes or leading zeros. -/
def stateKey? (key : List Char) : Option Nat :=
  if key.isEmpty || !key.all Json.isDigit || (key.head? == some '0' && key.length > 1) then none
  else (some (Json.Number.digitsValue key)).filter (· < stateLimit)

namespace Row

def toJson (row : Row) : Value :=
  .ofMembers [
    ("actions", .ofMembers (row.actions.entries.map fun (terminal, a) => (terminal, a.toJson))),
    ("gotos", .ofMembers (row.gotos.entries.map fun (expression, n) => (expression, .ofNat n)))]

def ofJson? (v : Value) : Option Row := do
  match ← Json.fields? ["actions", "gotos"] v with
  | [actions, gotos] =>
    return ⟨.ofList (← textEntries? Action.ofJson? actions),
      .ofList (← textEntries? (Value.toNatBelow? stateLimit) gotos)⟩
  | _ => none

end Row

namespace Table

/-- The JSON value of a table. State numbers are keys in decimal. -/
def toJson (t : Table) : Value :=
  .ofMembers [
    ("start", .ofNat t.start),
    ("states", .object (t.states.entries.map fun (id, row) => (Nat.toDigits 10 id, row.toJson)))]

/-- Reads a table. A state, terminal or expression that stands twice keeps its first place and takes
its last value. -/
def ofJson? (v : Value) : Option Table := do
  match ← Json.fields? ["start", "states"] v with
  | [start, .object members] =>
    let start ← start.toNatBelow? stateLimit
    let rows ← members.mapM fun (key, row) => do return (← stateKey? key, ← Row.ofJson? row)
    return ⟨start, .ofList rows⟩
  | _ => none

def encode (t : Table) : String := t.toJson.render

def decode? (text : String) : Option Table := do
  ofJson? (← Json.parse text)

end Table

end CanonicalLR
