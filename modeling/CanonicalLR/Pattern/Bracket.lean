import CanonicalLR.Pattern.Escape

/-! Character sets between square brackets. -/
namespace CanonicalLR.Pattern

/-- The operators between the parts of a bracket. They group to the left. -/
inductive SetOp where
  | inter
  | diff
  | symmDiff

/-- An open bracket: the operand and operator on the left of the current part, and the members of
the current part. The numbers say how deeply operands and members are nested. -/
structure Bracket where
  negated : Bool
  left : Option (CharSet × Nat × SetOp)
  members : List CharSet
  depth : Nat

namespace Bracket

def total (flags : Flags) (b : Bracket) : CharSet :=
  let part := CharSet.unions b.members.reverse
  match b.left with
  | none => part
  | some (left, _, .inter) => .inter (flags.caseClosed left) (flags.caseClosed part)
  | some (left, _, .diff) => .diff (flags.caseClosed left) (flags.caseClosed part)
  | some (left, _, .symmDiff) => .symmDiff (flags.caseClosed left) (flags.caseClosed part)

/-- How deeply the content of the bracket is nested. Several members count as a level, and so does each
operator. -/
def totalDepth (b : Bracket) : Nat :=
  let part := if 1 < b.members.length then b.depth + 1 else b.depth
  match b.left with
  | none => part
  | some (_, depth, _) => max depth part + 1

def close (flags : Flags) (b : Bracket) : Except PatternError CharSet :=
  let s := flags.caseClosed (b.total flags)
  if b.negated then flags.negated s else .ok s

def add (b : Bracket) (s : CharSet) (depth : Nat) : Bracket :=
  { b with members := s :: b.members, depth := max b.depth depth }

def operator (flags : Flags) (b : Bracket) (op : SetOp) : Bracket :=
  { b with left := some (b.total flags, b.totalDepth, op), members := [], depth := 0 }

end Bracket

/-- Reads the start of a bracket behind `[`: a circumflex that negates, then hyphens that stand for
themselves, or else a closing bracket that does. -/
def openBracket (flags : Flags) (text : List Char) : Except PatternError (Bracket × List Char) := do
  let (negated, text) := match flags.skip text with
    | '^' :: text => (true, flags.skip text)
    | text => (false, text)
  let (hyphens, text) := leading text.length text
  if text.isEmpty then throw .unclosedClass
  match hyphens, text with
  | [], ']' :: text =>
    let text := flags.skip text
    if text.isEmpty then throw .unclosedClass
    return (⟨negated, none, [.single ']'], 0⟩, text)
  | hyphens, text => return (⟨negated, none, hyphens, 0⟩, text)
where
  /-- The hyphens at the start of a text. -/
  leading : Nat → List Char → List CharSet × List Char
    | fuel + 1, '-' :: text =>
      let (hyphens, rest) := leading fuel (flags.skip text)
      (.single '-' :: hyphens, rest)
    | _, text => ([], text)

/-- A named set such as `[:alpha:]` or, negated, `[:^alpha:]`, behind its first bracket. -/
def namedSet? : List Char → Option (CharSet × Bool × List Char)
  | ':' :: text =>
    let (negated, text) := match text with
      | '^' :: text => (true, text)
      | text => (false, text)
    match text.dropWhile (· != ':') with
    | ':' :: ']' :: rest =>
      (CharSet.named? (String.ofList (text.takeWhile (· != ':')))).map fun s => (s, negated, rest)
    | _ => none
  | _ => none

def readMember (flags : Flags) : List Char → Except PatternError (Atom × List Char)
  | [] => .error .unclosedClass
  | '\\' :: text => readEscape flags text
  | c :: text => .ok (.literal c, text)

def allowed (flags : Flags) (c : Char) : Except PatternError Char :=
  if flags.unicode || c.val < 0x80 then .ok c else .error .notAscii

def Atom.toSet (flags : Flags) : Atom → Except PatternError CharSet
  | literal c => (allowed flags c).map .single
  | set s => .ok s
  | anchor _ => .error .notACharacter

def Atom.toChar (flags : Flags) : Atom → Except PatternError Char
  | literal c => allowed flags c
  | _ => .error .notACharacter

/-- One member or range. A hyphen before a closing bracket or another hyphen makes no range. -/
def readRange (flags : Flags) (text : List Char) : Except PatternError (CharSet × List Char) := do
  let (first, rest) ← readMember flags text
  match flags.skip rest with
  | [] => throw .unclosedClass
  | '-' :: more =>
    if flags.peek more == some ']' || flags.peek more == some '-' then
      return (← first.toSet flags, '-' :: more)
    match flags.skip more with
    | [] => throw .unclosedClass
    | more =>
      let (last, rest) ← readMember flags more
      let first ← first.toChar flags
      let last ← last.toChar flags
      if last < first then throw .reversedRange
      return (.range first last, rest)
  | rest => return (← first.toSet flags, rest)

/-- Reads to the end of the outermost bracket. Each round reads at least one character. The result says
how deeply the bracket is nested. -/
def readBrackets (flags : Flags) : Nat → Bracket → List Bracket → List Char →
    Except PatternError (CharSet × Nat × List Char)
  | 0, _, _, _ => .error .unclosedClass
  | fuel + 1, b, outer, text => match flags.skip text with
    | [] => .error .unclosedClass
    | '[' :: text => match namedSet? text with
      | some (s, negated, rest) => do
        let s := flags.caseClosed s
        let s ← if negated then flags.negated s else pure s
        readBrackets flags fuel (b.add s 0) outer rest
      | none => do
        let (inner, rest) ← openBracket flags text
        readBrackets flags fuel inner (b :: outer) rest
    | ']' :: text => do
      let s ← b.close flags
      let depth := b.totalDepth + 1
      match outer with
      | [] => return (s, depth, text)
      | parent :: outer => readBrackets flags fuel (parent.add s depth) outer text
    | '&' :: '&' :: text => readBrackets flags fuel (b.operator flags .inter) outer text
    | '-' :: '-' :: text => readBrackets flags fuel (b.operator flags .diff) outer text
    | '~' :: '~' :: text => readBrackets flags fuel (b.operator flags .symmDiff) outer text
    | text => do
      let (s, rest) ← readRange flags text
      readBrackets flags fuel (b.add s 0) outer rest

def readBracket (flags : Flags) (text : List Char) :
    Except PatternError (CharSet × Nat × List Char) := do
  let (b, rest) ← openBracket flags text
  readBrackets flags (rest.length + 1) b [] rest

end CanonicalLR.Pattern
