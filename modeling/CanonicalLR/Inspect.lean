import CanonicalLR.Grammar
import CanonicalLR.Lexer.Rule
import CanonicalLR.Parser

/-! Inspection texts: values on one line with the names of all their parts. -/
namespace CanonicalLR.Inspect

def parts (ps : List String) : String := ", ".intercalate ps

def record (name : String) (fields : List (String × String)) : String :=
  name ++ " \x7b " ++ parts (fields.map fun (field, value) => field ++ ": " ++ value) ++ " \x7d"

def list (ps : List String) : String := "[" ++ parts ps ++ "]"

def dict (entries : List (String × String)) : String :=
  "\x7b" ++ parts (entries.map fun (key, value) => key ++ ": " ++ value) ++ "\x7d"

def bool (b : Bool) : String := if b then "true" else "false"

def position (p : Position) : String :=
  record "Position" [("index", toString p.index), ("row", toString p.row),
    ("column", toString p.column), ("length", toString p.length)]

def token (t : Token) : String :=
  record "Token" [("name", Text.quoted t.name), ("content", Text.quoted t.content),
    ("position", position t.position)]

mutual

def tree : Tree → String
  | .leaf t => record "Leaf" [("token", token t)]
  | .node expression alternative children =>
    record "Expression" [("expression", Text.quoted expression),
      ("alternative", toString alternative), ("children", list (trees children))]

def trees : List Tree → List String
  | [] => []
  | t :: ts => tree t :: trees ts

end

/-- A lexical rule. Of an action only the presence is shown. -/
def lexRule (r : LexRule) : String :=
  record "LexRule" [("name", Text.quoted r.name), ("pattern", Text.quoted r.pattern),
    ("case_insensitive", bool r.ignoreCase), ("skip", bool r.skip), ("action", bool r.action.isSome)]

/-- An alternative. Of an action only the presence is shown. -/
def alternative {α : Type} (a : Alternative α) : String :=
  record "Alternative" [("symbols", Text.quotedList a.symbols), ("action", bool a.action.isSome)]

def definition {α : Type} (d : Definition α) : String :=
  record "Expression" [("name", Text.quoted d.name),
    ("alternatives", list (d.alternatives.map alternative))]

def stateId (n : Nat) : String := record "StateID" [("raw", toString n)]

def action : Action → String
  | .shift state => record "Shift" [("state", stateId state)]
  | .reduce expression alternative len =>
    record "Reduce" [("expression", Text.quoted expression), ("alternative", toString alternative),
      ("len", toString len)]
  | .accept => "Accept"

def row (r : Row) : String :=
  record "ParseTableRow" [
    ("actions", dict (r.actions.entries.map fun (terminal, a) => (Text.quoted terminal, action a))),
    ("gotos", dict (r.gotos.entries.map fun (name, state) => (Text.quoted name, stateId state)))]

def table (t : Table) : String :=
  record "ParseTable" [("start", stateId t.start),
    ("states", dict (t.states.entries.map fun (id, r) => (stateId id, row r)))]

/-- A parser. Of the callbacks only the presence is shown. -/
def parser {υ : Type} (p : Parser υ) : String :=
  record "Parser" [("table", table p.table), ("reducer", bool p.reducer.isSome),
    ("on_bad_input", bool p.onBadInput.isSome),
    ("max_recovery_attempts", toString p.maxRecoveryAttempts)]

/-- A context, where `user` is the text of the user's value. -/
def context {υ : Type} (user : String) (c : Context υ) : String :=
  record "ParseContext" [("input", list (c.feed.input.map token)),
    ("next_index", toString c.feed.cursor),
    ("state_stack", list (c.states.reverse.map stateId)),
    ("node_stack", list (trees c.nodes.reverse)), ("user_context", user)]

end CanonicalLR.Inspect
