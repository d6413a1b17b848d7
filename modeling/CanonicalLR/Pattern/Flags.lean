import CanonicalLR.Pattern.Simplify

/-! Reasons why a text is no pattern, and the settings under which the characters of a pattern text
are read. -/
namespace CanonicalLR

/-- What is wrong with a pattern text. -/
inductive PatternError where
  | unclosedGroup
  | unopenedGroup
  | lookAround
  | badGroupName
  | repeatedGroupName
  | noFlags
  | unknownFlag
  | repeatedFlag
  | danglingNegation
  | missingOperand
  | unclosedCount
  | badNumber
  | reversedCount
  | unclosedClass
  | notACharacter
  | reversedRange
  | unfinishedEscape
  | unknownEscape
  | badCodePoint
  | unknownProperty
  /-- A part could match bytes that do not make up characters. -/
  | notText
  /-- A part needs characters outside ASCII where only ASCII is allowed. -/
  | notAscii
  | tooDeep
  | tooLong
deriving DecidableEq

namespace Pattern

/-- What the letters `i`, `m`, `s`, `U`, `R`, `x` and `u` switch on. -/
structure Flags where
  ignoreCase : Bool := false
  multiLine : Bool := false
  dotAll : Bool := false
  swapGreed : Bool := false
  crlf : Bool := false
  verbose : Bool := false
  /-- Classes of characters go beyond ASCII. -/
  unicode : Bool := true
deriving DecidableEq

namespace Flags

def set? (flags : Flags) (letter : Char) (value : Bool) : Option Flags :=
  match letter with
  | 'i' => some { flags with ignoreCase := value }
  | 'm' => some { flags with multiLine := value }
  | 's' => some { flags with dotAll := value }
  | 'U' => some { flags with swapGreed := value }
  | 'R' => some { flags with crlf := value }
  | 'x' => some { flags with verbose := value }
  | 'u' => some { flags with unicode := value }
  | _ => none

def caseClosed (flags : Flags) (s : CharSet) : CharSet :=
  if flags.ignoreCase then if flags.unicode then s.folded else s.foldedAscii else s

/-- The characters that are not in a set. Where only ASCII is allowed there is no way to write them. -/
def negated (flags : Flags) (s : CharSet) : Except PatternError CharSet :=
  if flags.unicode then .ok s.compl else .error .notText

def select (flags : Flags) (all ascii : CharSet) : CharSet :=
  if flags.unicode then all else ascii

def literal (flags : Flags) (c : Char) : Pattern :=
  if !flags.ignoreCase then .literal [c]
  else if flags.unicode then ofSet (.variants c)
  else ofSet (CharSet.single c).foldedAscii

def dot (flags : Flags) : Except PatternError Pattern :=
  (flags.negated (if flags.dotAll then .empty
    else if flags.crlf then .union (.single '\r') (.single '\n')
    else .single '\n')).map .oneOf

def wordKind (flags : Flags) : WordKind :=
  if flags.unicode then .allScripts else .ascii

def caret (flags : Flags) : Pattern :=
  .anchor (if flags.multiLine then if flags.crlf then .recordStart else .lineStart else .textStart)

def dollar (flags : Flags) : Pattern :=
  .anchor (if flags.multiLine then if flags.crlf then .recordEnd else .lineEnd else .textEnd)

/-- Drops what verbose mode ignores: white space, and from a number sign to the end of the line. -/
def skip (flags : Flags) (text : List Char) : List Char :=
  if flags.verbose then go text.length text else text
where
  /-- Each round drops at least one character. -/
  go : Nat → List Char → List Char
    | 0, text => text
    | _ + 1, [] => []
    | fuel + 1, c :: text =>
      if Text.isBlank c then go fuel text
      else if c == '#' then go fuel ((text.dropWhile (· != '\n')).drop 1)
      else c :: text

/-- The character that comes next. In verbose mode white space is passed over, and so is a number sign,
but not the comment behind it; if nothing else is left, the next character counts as it is. -/
def peek (flags : Flags) (text : List Char) : Option Char :=
  if flags.verbose then
    let next := text.dropWhile Text.isBlank
    let next := if next.head? == some '#' then (next.drop 1).dropWhile Text.isBlank else next
    next.head? <|> text.head?
  else text.head?

end Flags

end Pattern

end CanonicalLR
