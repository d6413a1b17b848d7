import CanonicalLR.Lexer.Rule

/-! Splitting a text into tokens: at each place the first rule in order that matches wins. -/
namespace CanonicalLR

/-- Rules in the order in which they are tried. -/
structure Lexer where
  rules : List CompiledRule

/-- A piece of the text and the rule that claimed it. Where the match does not begin at the current
place, what it passed over belongs to the piece. -/
structure Segment where
  rule : LexRule
  start : Nat
  found : Pattern.Match

namespace Segment

def text (s : Segment) : List Char :=
  s.found.skipped ++ s.found.taken

/-- The token of a segment: its content is the match, its extent the whole segment. -/
def token (lines : LineStarts) (s : Segment) : Token :=
  ⟨s.rule.name, String.ofList s.found.taken, lines.position s.start (Text.byteLength s.text)⟩

def emit (lines : LineStarts) (tokens : List Token) (s : Segment) : List Token :=
  let tokens := tokens ++ [s.token lines]
  match s.rule.action with
  | none => tokens
  | some act => act tokens

end Segment

/-- Why a scan stopped. -/
inductive ScanEnd where
  | finished
  | stuck (offset : Nat)
  | empty (rule : LexRule)

/-- The segments found from left to right, and why there are no more. -/
structure Scan where
  segments : List Segment
  stop : ScanEnd

namespace Scan

def emitted (scan : Scan) : List Segment :=
  scan.segments.filter (!·.rule.skip)

end Scan

namespace Lexer

def ofRules (rules : List LexRule) : Except LexError Lexer :=
  return ⟨← rules.mapM LexRule.compile⟩

def firstMatch (lexer : Lexer) (text : List Char) : Option (LexRule × Pattern.Match) :=
  lexer.rules.findSome? fun r => (r.find text).map fun m => (r.rule, m)

/-- Scans a text that starts at byte `offset`. Each round takes at least one character off, so as
many rounds as there are characters suffice. -/
def scanFrom (lexer : Lexer) : Nat → Nat → List Char → Scan
  | _, _, [] => ⟨[], .finished⟩
  | 0, offset, _ :: _ => ⟨[], .stuck offset⟩
  | fuel + 1, offset, text@(_ :: _) => match lexer.firstMatch text with
    | none => ⟨[], .stuck offset⟩
    | some (rule, found) =>
      if found.taken.isEmpty then ⟨[], .empty rule⟩
      else
        let segment : Segment := ⟨rule, offset, found⟩
        let scan := lexer.scanFrom fuel (offset + Text.byteLength segment.text)
          (text.drop segment.text.length)
        { scan with segments := segment :: scan.segments }

def scan (lexer : Lexer) (text : List Char) : Scan :=
  lexer.scanFrom text.length 0 text

def tokenize (lexer : Lexer) (text : String) : Except LexError (List Token) :=
  let lines := LineStarts.ofText text.toList
  let scan := lexer.scan text.toList
  match scan.stop with
  | .finished => .ok (scan.emitted.foldl (Segment.emit lines) [])
  | .stuck offset => .error (.noMatch (lines.position offset 0))
  | .empty rule => .error (.emptyMatch rule.name rule.pattern)

end Lexer

end CanonicalLR
