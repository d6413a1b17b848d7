import CanonicalLR.Pattern.Match
import CanonicalLR.Pattern.Reader
import CanonicalLR.Token

/-! Lexical rules and the errors of lexing. -/
namespace CanonicalLR

/-- A token name and the pattern that recognizes it. -/
structure LexRule where
  name : String
  pattern : String
  ignoreCase : Bool := false
  /-- The matched text makes no token. -/
  skip : Bool := false
  /-- Edits the tokens read so far, the new one last. -/
  action : Option (List Token → List Token) := none

namespace LexRule

def render (rule : LexRule) : String :=
  rule.name ++ " = /" ++ rule.pattern ++ "/" ++ (if rule.ignoreCase then "i" else "")
    ++ (if rule.skip then " (skip)" else "")

/-- The pattern text that ties a rule to the current place. The rule's text stands in it as it is,
so a closing parenthesis in it can end the group early. -/
def tiedPattern (rule : LexRule) : String :=
  "^(?:" ++ rule.pattern ++ ")"

end LexRule

/-- Why a text can not be split into tokens. -/
inductive LexError where
  | invalidPattern (name : String) (reason : PatternError)
  | emptyMatch (name pattern : String)
  | noMatch (position : Position)
deriving DecidableEq

namespace LexError

/-- The message of an error. Nothing is said about what is wrong with a pattern. -/
def message : LexError → String
  | invalidPattern name _ => "invalid pattern for `" ++ name ++ "'"
  | emptyMatch name pattern =>
    "the pattern `" ++ pattern ++ "' of `" ++ name ++ "' matched an empty string"
  | noMatch position => "no rule matches at position " ++ position.render

end LexError

/-- A rule together with the search for its pattern. -/
structure CompiledRule where
  rule : LexRule
  find : List Char → Option Pattern.Match

def LexRule.compile (rule : LexRule) : Except LexError CompiledRule :=
  match Pattern.compile { ignoreCase := rule.ignoreCase } rule.tiedPattern with
  | .ok prog => .ok ⟨rule, prog.find⟩
  | .error reason => .error (.invalidPattern rule.name reason)

end CanonicalLR
