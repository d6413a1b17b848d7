import CanonicalLR.Json.Value

/-! Reading JSON texts. -/
namespace CanonicalLR.Json

def isSpace (c : Char) : Bool :=
  c == ' ' || c == '\t' || c == '\n' || c == '\r'

def skipSpace (text : List Char) : List Char :=
  text.dropWhile isSpace

def isDigit (c : Char) : Bool :=
  '0' ≤ c && c ≤ '9'

/-- The characters of a string up to its closing quote. Escapes are checked for their form and kept;
control characters are refused. -/
def readString : List Char → Option (List Char × List Char)
  | [] => none
  | '"' :: rest => some ([], rest)
  | '\\' :: 'u' :: a :: b :: c :: d :: rest => do
    let _ ← hex4? a b c d
    let (raw, rest) ← readString rest
    return ('\\' :: 'u' :: a :: b :: c :: d :: raw, rest)
  | '\\' :: c :: rest => do
    let _ ← shortEscape? c
    let (raw, rest) ← readString rest
    return ('\\' :: c :: raw, rest)
  | c :: rest => do
    if c == '\\' || c.toNat < 0x20 then none
    let (raw, rest) ← readString rest
    return (c :: raw, rest)

def readDigits (text : List Char) : Option (List Char × List Char) :=
  let digits := text.takeWhile isDigit
  if digits.isEmpty then none else some (digits, text.dropWhile isDigit)

def readFraction : List Char → Option (Option (List Char) × List Char)
  | '.' :: rest => (readDigits rest).map fun (digits, rest) => (some digits, rest)
  | rest => some (none, rest)

def readExponent : List Char → Option (Option (Bool × Nat) × List Char)
  | c :: rest =>
    if c == 'e' || c == 'E' then do
      let (down, rest) := match rest with
        | '-' :: rest => (true, rest)
        | '+' :: rest => (false, rest)
        | rest => (false, rest)
      let (digits, rest) ← readDigits rest
      return (some (down, Number.digitsValue digits), rest)
    else some (none, c :: rest)
  | [] => some (none, [])

/-- A number without its sign. The whole part has no leading zeros. -/
def readUnsigned (negative : Bool) (text : List Char) : Option (Number × List Char) := do
  let (whole, rest) ← readDigits text
  if whole.head? == some '0' && whole.length > 1 then none
  let (fraction, rest) ← readFraction rest
  let (exponent, rest) ← readExponent rest
  return (⟨negative, Number.digitsValue whole, fraction, exponent⟩, rest)

def readWord (word : List Char) (text : List Char) : Option (List Char) :=
  if word.isPrefixOf text then some (text.drop word.length) else none

mutual

/-- Reads one value. Each level and each element uses up one unit of `fuel`. -/
def readValue : Nat → List Char → Option (Value × List Char)
  | 0, _ => none
  | fuel + 1, text => match skipSpace text with
    | '"' :: rest => do
      let (raw, rest) ← readString rest
      return (.string raw, rest)
    | '[' :: rest => match skipSpace rest with
      | ']' :: rest => some (.array [], rest)
      | rest => do
        let (elements, rest) ← readElements fuel rest
        return (.array elements, rest)
    | '\x7b' :: rest => match skipSpace rest with
      | '\x7d' :: rest => some (.object [], rest)
      | rest => do
        let (members, rest) ← readMembers fuel rest
        return (.object members, rest)
    | '-' :: rest => do
      let (n, rest) ← readUnsigned true rest
      return (.number n, rest)
    | 'n' :: rest => do return (.null, ← readWord ['u', 'l', 'l'] rest)
    | 't' :: rest => do return (.bool true, ← readWord ['r', 'u', 'e'] rest)
    | 'f' :: rest => do return (.bool false, ← readWord ['a', 'l', 's', 'e'] rest)
    | text => do
      let (n, rest) ← readUnsigned false text
      return (.number n, rest)

def readElements : Nat → List Char → Option (List Value × List Char)
  | 0, _ => none
  | fuel + 1, text => do
    let (v, rest) ← readValue fuel text
    match skipSpace rest with
    | ',' :: rest =>
      let (vs, rest) ← readElements fuel rest
      return (v :: vs, rest)
    | ']' :: rest => return ([v], rest)
    | _ => none

def readMembers : Nat → List Char → Option (List (List Char × Value) × List Char)
  | 0, _ => none
  | fuel + 1, text => match skipSpace text with
    | '"' :: rest => do
      let (key, rest) ← readString rest
      match skipSpace rest with
      | ':' :: rest =>
        let (v, rest) ← readValue fuel rest
        match skipSpace rest with
        | ',' :: rest =>
          let (ms, rest) ← readMembers fuel rest
          return ((key, v) :: ms, rest)
        | '\x7d' :: rest => return ([(key, v)], rest)
        | _ => none
      | _ => none
    | _ => none

end

/-- Reads a text that is one value with white space around it. -/
def parse (text : String) : Option Value :=
  let chars := text.toList
  match readValue (2 * chars.length + 2) chars with
  | some (v, rest) => if (skipSpace rest).isEmpty then some v else none
  | none => none

end CanonicalLR.Json
