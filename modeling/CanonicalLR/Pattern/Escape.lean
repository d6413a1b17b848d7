import CanonicalLR.Pattern.Flags
import CanonicalLR.Text.Property

/-! Escapes: what a backslash and the characters after it stand for. -/
namespace CanonicalLR.Pattern

/-- The smallest piece of a pattern text. -/
inductive Atom where
  | literal (c : Char)
  | set (s : CharSet)
  | anchor (a : Anchor)

def codePoint? (n : Nat) : Except PatternError Char :=
  if n.isValidChar then .ok (Char.ofNat n) else .error .badCodePoint

def readHexDigits (flags : Flags) : Nat → Nat → List Char → Except PatternError (Nat × List Char)
  | 0, value, text => .ok (value, text)
  | _ + 1, _, [] => .error .unfinishedEscape
  | n + 1, value, c :: text => match Text.hexDigit? c with
    | none => .error .badCodePoint
    | some d => readHexDigits flags n (16 * value + d) (flags.skip text)

def readHexBraced (flags : Flags) : Nat → Option Nat → List Char →
    Except PatternError (Nat × List Char)
  | 0, _, _ => .error .unfinishedEscape
  | _ + 1, _, [] => .error .unfinishedEscape
  | fuel + 1, value, c :: text =>
    if c == '\x7d' then match value with
      | none => .error .badCodePoint
      | some value => .ok (value, flags.skip text)
    else match Text.hexDigit? c with
      | none => .error .badCodePoint
      | some d => readHexBraced flags fuel (some (16 * value.getD 0 + d)) (flags.skip text)

/-- A code point in hexadecimal: `digits` of them, or any number between braces. Where only ASCII is
allowed, two digits mean a byte, and one that is not ASCII makes no character. -/
def readHex (flags : Flags) (digits : Nat) (text : List Char) :
    Except PatternError (Char × List Char) := do
  match flags.skip text with
  | [] => throw .unfinishedEscape
  | '\x7b' :: text =>
    let (value, rest) ← readHexBraced flags (text.length + 1) none (flags.skip text)
    return (← codePoint? value, rest)
  | text =>
    let (value, rest) ← readHexDigits flags digits 0 text
    if !flags.unicode && digits == 2 && 0x7f < value then throw .notText
    return (← codePoint? value, rest)

def readPropertyName (flags : Flags) : Nat → List Char → Except PatternError (List Char × List Char)
  | 0, _ => .error .unfinishedEscape
  | fuel + 1, text => match flags.skip text with
    | [] => .error .unfinishedEscape
    | '\x7d' :: rest => .ok ([], rest)
    | c :: text => do
      let (name, rest) ← readPropertyName flags fuel text
      return (c :: name, rest)

/-- Splits a text where one of the operators that separate a property from its value stands first, and
says whether it is the one for inequality, which goes before the others wherever it stands. -/
def splitProperty (text : List Char) : Option (List Char × List Char × Bool) :=
  let at? (c : Char) :=
    if text.contains c then
      some (text.takeWhile (· != c), (text.dropWhile (· != c)).drop 1, false)
    else none
  unequal? text <|> at? ':' <|> at? '='
where
  /-- The texts before and behind the first `!=`. -/
  unequal? : List Char → Option (List Char × List Char × Bool)
    | '!' :: '=' :: rest => some ([], rest, true)
    | c :: rest => (unequal? rest).map fun (before, behind, flag) => (c :: before, behind, flag)
    | [] => none

def readProperty (flags : Flags) (negated : Bool) (text : List Char) :
    Except PatternError (CharSet × List Char) := do
  let (bounds, unequal, rest) ← match flags.skip text with
    | [] => throw .unfinishedEscape
    | '\x7b' :: text =>
      let (name, rest) ← readPropertyName flags (text.length + 1) text
      pure <| match splitProperty name with
        | some (property, value, unequal) =>
          (Text.Property.valued? (Text.Property.looseName property)
            (Text.Property.looseName value), unequal, rest)
        | none => (Text.Property.named? (Text.Property.looseName name), false, rest)
    | c :: rest => pure (Text.Property.named? (Text.Property.looseName [c]), false, rest)
  if !flags.unicode then throw .notAscii
  match bounds with
  | none => throw .unknownProperty
  | some bounds =>
    let s := flags.caseClosed ⟨bounds⟩
    if negated != unequal then return (← flags.negated s, rest) else return (s, rest)

/-- Characters that a backslash makes stand for themselves: all of ASCII but letters, digits and
angle brackets. -/
def isEscapable (c : Char) : Bool :=
  c.val < 0x80 && !c.isAlphanum && c != '<' && c != '>'

/-- The name of a word anchor in braces. A brace that does not begin with a letter or a hyphen is
left alone: it is an iteration count. -/
def readWordAnchor (flags : Flags) (text : List Char) :
    Except PatternError (Anchor × List Char) :=
  match text with
  | '\x7b' :: more =>
    match flags.skip more with
    | [] => .error .unfinishedEscape
    | c :: rest =>
      if c.isAlpha || c == '-' then
        let (name, rest) := letters (rest.length + 1) (c :: rest)
        match rest with
        | '\x7d' :: rest =>
          if name == "start".toList then .ok (.wordStart flags.wordKind, rest)
          else if name == "end".toList then .ok (.wordEnd flags.wordKind, rest)
          else if name == "start-half".toList then .ok (.beforeWord flags.wordKind, rest)
          else if name == "end-half".toList then .ok (.afterWord flags.wordKind, rest)
          else .error .unknownEscape
        | _ => .error .unknownEscape
      else .ok (.wordBoundary flags.wordKind, text)
  | _ => .ok (.wordBoundary flags.wordKind, text)
where
  /-- The longest run of letters and hyphens, and what follows it. -/
  letters : Nat → List Char → List Char × List Char
    | fuel + 1, c :: text =>
      if c.isAlpha || c == '-' then
        let (name, rest) := letters fuel (flags.skip text)
        (c :: name, rest)
      else ([], c :: text)
    | _, text => ([], text)

def letterSet (flags : Flags) (letter : Char) : CharSet :=
  match letter with
  | 'd' => flags.select .digit (.range '0' '9')
  | 's' => flags.select .blank (.unions [.range '\t' '\r', .single ' '])
  | _ => flags.select .word
    (.unions [.range '0' '9', .range 'A' 'Z', .single '_', .range 'a' 'z'])

def readEscape (flags : Flags) : List Char → Except PatternError (Atom × List Char)
  | [] => .error .unfinishedEscape
  | c :: text =>
    if isEscapable c then .ok (.literal c, text)
    else match c with
      | 'd' | 's' | 'w' => .ok (.set (letterSet flags c), text)
      | 'D' | 'S' | 'W' => do return (.set (← flags.negated (letterSet flags c.toLower)), text)
      | 'p' => do let (s, rest) ← readProperty flags false text; return (.set s, rest)
      | 'P' => do let (s, rest) ← readProperty flags true text; return (.set s, rest)
      | 'x' => do let (c, rest) ← readHex flags 2 text; return (.literal c, rest)
      | 'u' => do let (c, rest) ← readHex flags 4 text; return (.literal c, rest)
      | 'U' => do let (c, rest) ← readHex flags 8 text; return (.literal c, rest)
      | 'a' => .ok (.literal '\x07', text)
      | 'f' => .ok (.literal '\x0c', text)
      | 't' => .ok (.literal '\t', text)
      | 'n' => .ok (.literal '\n', text)
      | 'r' => .ok (.literal '\r', text)
      | 'v' => .ok (.literal '\x0b', text)
      | 'A' => .ok (.anchor .textStart, text)
      | 'z' => .ok (.anchor .textEnd, text)
      | 'b' => do let (a, rest) ← readWordAnchor flags text; return (.anchor a, rest)
      | 'B' => .ok (.anchor (.notWordBoundary flags.wordKind), text)
      | '<' => .ok (.anchor (.wordStart flags.wordKind), text)
      | '>' => .ok (.anchor (.wordEnd flags.wordKind), text)
      | _ => .error .unknownEscape

end CanonicalLR.Pattern
