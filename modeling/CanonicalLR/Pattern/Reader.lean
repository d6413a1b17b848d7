import CanonicalLR.Pattern.Bracket
import CanonicalLR.Pattern.Program
import CanonicalLR.Text.Letter

/-! Reading pattern texts. -/
namespace CanonicalLR.Pattern

/-- A pattern and how deeply its text is nested. Groups, brackets, iterations, and sequences and
choices of several parts are levels. -/
structure Nested where
  pattern : Pattern
  depth : Nat

def depthLimit : Nat := 250

def Nested.join (op : List Pattern → Pattern) (ps : List Nested) : Nested :=
  let depth := ps.foldl (fun d p => max d p.depth) 0
  ⟨op (ps.map (·.pattern)), if 1 < ps.length then depth + 1 else depth⟩

/-- A part of a branch. A flag setting stands in it but can not be iterated. -/
inductive Part where
  | plain (p : Nested)
  | setting

def Part.nested : Part → Nested
  | plain p => p
  | setting => ⟨.nothing, 0⟩

/-- An open group: the flags to return to, its number if it has one, its finished branches and the
parts of its current branch, both with the last one first. -/
structure Group where
  outerFlags : Flags
  index : Option Nat
  branches : List Nested
  parts : List Part

namespace Group

def branch (g : Group) : Nested :=
  .join concat (g.parts.reverse.map Part.nested)

def content (g : Group) : Nested :=
  .join alternation (g.branch :: g.branches).reverse

def close (g : Group) : Nested :=
  let ⟨p, depth⟩ := g.content
  match g.index with
  | none => ⟨p, depth + 1⟩
  | some index => ⟨.capture index p, depth + 1⟩

def add (g : Group) (p : Part) : Group :=
  { g with parts := p :: g.parts }

def takeOperand (g : Group) : Except PatternError (Nested × Group) :=
  match g.parts with
  | .plain p :: parts => .ok (p, { g with parts })
  | _ => .error .missingOperand

end Group

/-- How far a pattern text has been read: `captures` counts the groups with a number. -/
structure Reading where
  flags : Flags
  group : Group
  outer : List Group
  names : List (List Char)
  captures : Nat

namespace Reading

def add (r : Reading) (p : Pattern) (depth : Nat) : Reading :=
  { r with group := r.group.add (.plain ⟨p, depth⟩) }

def openGroup (r : Reading) (flags : Flags) : Reading :=
  { r with flags, group := ⟨r.flags, none, [], []⟩, outer := r.group :: r.outer }

def openCapture (r : Reading) : Reading :=
  { r with group := ⟨r.flags, some r.captures, [], []⟩, outer := r.group :: r.outer,
           captures := r.captures + 1 }

end Reading

/-- Reads flag letters up to a colon or a closing parenthesis. A hyphen switches the letters behind
it off; neither it nor any letter may stand twice. -/
def readFlags : Flags → Bool → List Char → List Char → Except PatternError (Flags × List Char)
  | _, _, _, [] => .error .unclosedGroup
  | flags, off, seen, c :: text =>
    if c == ':' || c == ')' then
      if seen.head? == some '-' then .error .danglingNegation else .ok (flags, c :: text)
    else if seen.contains c then .error .repeatedFlag
    else if c == '-' then readFlags flags true (c :: seen) text
    else match flags.set? c (!off) with
      | none => .error .unknownFlag
      | some flags => readFlags flags off (c :: seen) text

def readGroupName (names : List (List Char)) (text : List Char) :
    Except PatternError (List Char × List Char) :=
  let name := text.takeWhile (· != '>')
  let first (c : Char) := Text.isLetter c || c == '_'
  let inner (c : Char) := first c || Text.isNumeral c || c == '.' || c == '[' || c == ']'
  match name, text.dropWhile (· != '>') with
  | c :: more, '>' :: rest =>
    if !first c || !more.all inner then .error .badGroupName
    else if names.contains name then .error .repeatedGroupName
    else .ok (name, rest)
  | _, _ => .error .badGroupName

/-- Reads what follows an opening parenthesis up to the start of the group's first branch, or the
whole of a flag setting. -/
def readGroupStart (r : Reading) (text : List Char) : Except PatternError (Reading × List Char) :=
  let named (text : List Char) := do
    let (name, rest) ← readGroupName r.names text
    return ({ r.openCapture with names := name :: r.names }, rest)
  match r.flags.skip text with
  | '?' :: '=' :: _ | '?' :: '!' :: _ | '?' :: '<' :: '=' :: _ | '?' :: '<' :: '!' :: _ =>
    .error .lookAround
  | '?' :: 'P' :: '<' :: text | '?' :: '<' :: text => named text
  | '?' :: text => do
    let (flags, rest) ← readFlags r.flags false [] text
    match rest with
    | ':' :: rest => return (r.openGroup flags, rest)
    | rest =>
      if text.head? == some ')' then throw .noFlags
      return ({ r with flags, group := r.group.add .setting }, rest.drop 1)
  | text => .ok (r.openCapture, text)

private def dropBlanks (text : List Char) : List Char :=
  text.dropWhile Text.isBlank

/-- Reads a decimal number below 2^32 with white space around it. -/
def readNumber (flags : Flags) (text : List Char) : Except PatternError (Nat × List Char) := do
  let (value, rest) := digits (text.length + 1) none (dropBlanks text)
  match value with
  | some value =>
    if value < Nat.pow 2 32 then return (value, dropBlanks (flags.skip (dropBlanks rest)))
    else throw .badNumber
  | none => throw .badNumber
where
  /-- The value of the digits at the start of a text; `none` if there are none. -/
  digits : Nat → Option Nat → List Char → Option Nat × List Char
    | fuel + 1, value, c :: text =>
      if '0' ≤ c && c ≤ '9' then
        digits fuel (some (10 * value.getD 0 + (c.toNat - '0'.toNat))) (flags.skip text)
      else (value, c :: text)
    | _, value, text => (value, text)

def readCount (flags : Flags) (text : List Char) :
    Except PatternError (Nat × Option Nat × List Char) := do
  let (least, rest) ← readNumber flags (flags.skip text)
  match rest with
  | '\x7d' :: rest => return (least, some least, rest)
  | ',' :: rest => match flags.skip rest with
    | '\x7d' :: rest => return (least, none, rest)
    | rest =>
      let (most, rest) ← readNumber flags rest
      match rest with
      | '\x7d' :: rest =>
        if most < least then throw .reversedCount
        return (least, some most, rest)
      | _ => throw .unclosedCount
  | _ => throw .unclosedCount

/-- Iterates the last part. A question mark directly behind the operator makes it lazy. -/
def iterateLast (r : Reading) (least : Nat) (most : Option Nat) (text : List Char) :
    Except PatternError (Reading × List Char) := do
  let (⟨body, depth⟩, group) ← r.group.takeOperand
  let (greedy, rest) := match text with
    | '?' :: rest => (false, rest)
    | text => (true, text)
  let p := repetition body least most (greedy != r.flags.swapGreed)
  return ({ r with group }.add p (depth + 1), rest)

def readPiece (r : Reading) (c : Char) (text : List Char) :
    Except PatternError (Reading × List Char) :=
  match c with
  | '(' => readGroupStart r text
  | ')' => match r.outer with
    | [] => .error .unopenedGroup
    | parent :: outer =>
      .ok ({ r with flags := r.group.outerFlags,
                    group := parent.add (.plain r.group.close), outer }, text)
  | '|' =>
    .ok ({ r with group := { r.group with branches := r.group.branch :: r.group.branches,
                                          parts := [] } }, text)
  | '[' => do
    let (s, depth, rest) ← readBracket r.flags text
    return (r.add (ofSet s) depth, rest)
  | '?' => iterateLast r 0 (some 1) text
  | '*' => iterateLast r 0 none text
  | '+' => iterateLast r 1 none text
  | '\x7b' => do
    let _ ← r.group.takeOperand
    let (least, most, rest) ← readCount r.flags text
    iterateLast r least most (r.flags.skip rest)
  | '\\' => do
    let (atom, rest) ← readEscape r.flags text
    let p := match atom with
      | .literal c => r.flags.literal c
      | .set s => ofSet s
      | .anchor a => .anchor a
    return (r.add p 0, rest)
  | '.' => do return (r.add (← r.flags.dot) 0, text)
  | '^' => .ok (r.add r.flags.caret 0, text)
  | '$' => .ok (r.add r.flags.dollar 0, text)
  | c => .ok (r.add (r.flags.literal c) 0, text)

/-- Reads to the end of the text. Each round reads at least one character. -/
def readPieces : Nat → Reading → List Char → Except PatternError Nested
  | 0, _, _ => .error .tooLong
  | fuel + 1, r, text => match r.flags.skip text with
    | [] => if r.outer.isEmpty then .ok r.group.content else .error .unclosedGroup
    | c :: text => do
      let (r, rest) ← readPiece r c text
      readPieces fuel r rest

def read (flags : Flags) (text : String) : Except PatternError Pattern := do
  let chars := text.toList
  let p ← readPieces (chars.length + 1) ⟨flags, ⟨flags, none, [], []⟩, [], [], 0⟩ chars
  if depthLimit < p.depth then throw .tooDeep
  return p.pattern

def compile (flags : Flags) (text : String) : Except PatternError Program := do
  let p ← read flags text
  match p.program? with
  | some prog => return prog
  | none => throw .tooLong

end CanonicalLR.Pattern
