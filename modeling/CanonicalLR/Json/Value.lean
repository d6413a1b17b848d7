import CanonicalLR.Json.Number
import CanonicalLR.Text.Class

/-! JSON values as they are written. Strings keep their escapes and numbers their form until someone
asks for their meaning, because not every string and number that may be written has one. Records,
the fields of a structure or of a tagged choice, are read from objects or from arrays. -/
namespace CanonicalLR.Json

/-- A JSON value. Strings and keys are the characters between the quotes, escapes included. -/
inductive Value where
  | null
  | bool (b : Bool)
  | number (n : Number)
  | string (raw : List Char)
  | array (elements : List Value)
  | object (members : List (List Char × Value))

def hex4? (a b c d : Char) : Option Nat := do
  return ((← Text.hexDigit? a) * 16 + (← Text.hexDigit? b)) * 256 +
    (← Text.hexDigit? c) * 16 + (← Text.hexDigit? d)

def shortEscape? : Char → Option Char
  | '"' => some '"'
  | '\\' => some '\\'
  | '/' => some '/'
  | 'b' => some '\x08'
  | 'f' => some '\x0c'
  | 'n' => some '\n'
  | 'r' => some '\r'
  | 't' => some '\t'
  | _ => none

/-- The characters that a string between quotes stands for. A surrogate without its partner stands
for none. -/
def unescape : List Char → Option (List Char)
  | [] => some []
  | '\\' :: 'u' :: a :: b :: c :: d :: rest => do
    let n ← hex4? a b c d
    if n.isValidChar then return Char.ofNat n :: (← unescape rest)
    else match rest with
      | '\\' :: 'u' :: e :: f :: g :: h :: rest =>
        let m ← hex4? e f g h
        if 0xD800 ≤ n && n ≤ 0xDBFF && 0xDC00 ≤ m && m ≤ 0xDFFF then
          return Char.ofNat (0x10000 + (n - 0xD800) * 0x400 + (m - 0xDC00)) :: (← unescape rest)
        else none
      | _ => none
  | '\\' :: c :: rest => do return (← shortEscape? c) :: (← unescape rest)
  | '\\' :: [] => none
  | c :: rest => (unescape rest).map (c :: ·)

def hex2 (n : Nat) : List Char :=
  [Nat.digitChar (n / 16), Nat.digitChar (n % 16)]

/-- How a character stands between quotes: quotes, backslashes and controls are escaped. -/
def escapeChar (c : Char) : List Char :=
  match c with
  | '"' => ['\\', '"']
  | '\\' => ['\\', '\\']
  | '\x08' => ['\\', 'b']
  | '\x0c' => ['\\', 'f']
  | '\n' => ['\\', 'n']
  | '\r' => ['\\', 'r']
  | '\t' => ['\\', 't']
  | c => if c.toNat < 0x20 then ['\\', 'u', '0', '0'] ++ hex2 c.toNat else [c]

def escape (s : String) : List Char :=
  s.toList.flatMap escapeChar

namespace Value

def ofString (s : String) : Value := .string (escape s)

def ofNat (n : Nat) : Value := .number (.ofNat n)

def ofMembers (members : List (String × Value)) : Value :=
  .object (members.map fun (key, v) => (escape key, v))

def toString? : Value → Option String
  | string raw => (unescape raw).map String.ofList
  | _ => none

def toNatBelow? (bound : Nat) : Value → Option Nat
  | number n => n.toNat?.filter (· < bound)
  | _ => none

mutual

def depth : Value → Nat
  | array elements => depthOfElements elements + 1
  | object members => depthOfMembers members + 1
  | _ => 0

def depthOfElements : List Value → Nat
  | [] => 0
  | v :: vs => max v.depth (depthOfElements vs)

def depthOfMembers : List (List Char × Value) → Nat
  | [] => 0
  | (_, v) :: ms => max v.depth (depthOfMembers ms)

end

mutual

/-- Every string stands for a text and every number for a finite value. -/
def isMeaningful : Value → Bool
  | string raw => (unescape raw).isSome
  | number n => n.isFinite
  | array elements => elementsMeaningful elements
  | object members => membersMeaningful members
  | _ => true

def elementsMeaningful : List Value → Bool
  | [] => true
  | v :: vs => v.isMeaningful && elementsMeaningful vs

def membersMeaningful : List (List Char × Value) → Bool
  | [] => true
  | (key, v) :: ms => (unescape key).isSome && v.isMeaningful && membersMeaningful ms

end

end Value

/-- Nesting at and beyond this depth is refused wherever values are looked into. -/
def depthLimit : Nat := 128

def member? (members : List (List Char × Value)) (key : String) : Option Value :=
  match members.filter fun m => unescape m.1 = some key.toList with
  | [(_, v)] => some v
  | _ => none

/-- The fields of a record in order. An object holds each under its name, once, and may hold other
members; an array holds exactly the fields. -/
def fields? (names : List String) : Value → Option (List Value)
  | .object members =>
    if members.all fun m => (unescape m.1).isSome then names.mapM (member? members) else none
  | .array elements => if elements.length = names.length then some elements else none
  | _ => none

/-- A value that is looked into as a whole before its parts are. It stands `level` levels deep. -/
def admitted (level : Nat) (v : Value) : Bool :=
  v.isMeaningful && level + v.depth < depthLimit

/-- Splits a tagged record into the value of its tag and the rest. An object holds the tag under
`type`, an array in front. -/
def tagged? : Value → Option (Value × Value)
  | .object members => do
    let isTag (m : List Char × Value) : Bool := unescape m.1 = some ['t', 'y', 'p', 'e']
    match members.filter isTag with
    | [(_, tag)] => return (tag, .object (members.filter (!isTag ·)))
    | _ => none
  | .array (tag :: rest) => some (tag, .array rest)
  | _ => none

end CanonicalLR.Json
