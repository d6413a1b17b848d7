import CanonicalLR.Json.Value

/-! The text of a JSON value, without white space. -/
namespace CanonicalLR.Json

def Number.write (n : Number) (rest : List Char) : List Char :=
  let exponent := match n.exponent with
    | none => rest
    | some (down, e) => 'e' :: (if down then ['-'] else []) ++ Nat.toDigits 10 e ++ rest
  let fraction := match n.fraction with
    | none => exponent
    | some digits => '.' :: digits ++ exponent
  (if n.negative then ['-'] else []) ++ Nat.toDigits 10 n.whole ++ fraction

def writeString (raw rest : List Char) : List Char :=
  '"' :: raw ++ '"' :: rest

namespace Value

mutual

/-- The text of a value in front of `rest`. -/
def write : Value → List Char → List Char
  | null, rest => ['n', 'u', 'l', 'l'] ++ rest
  | bool true, rest => ['t', 'r', 'u', 'e'] ++ rest
  | bool false, rest => ['f', 'a', 'l', 's', 'e'] ++ rest
  | number n, rest => n.write rest
  | string raw, rest => writeString raw rest
  | array elements, rest => '[' :: writeElements elements (']' :: rest)
  | object members, rest => '\x7b' :: writeMembers members ('\x7d' :: rest)

def writeElements : List Value → List Char → List Char
  | [], rest => rest
  | [v], rest => v.write rest
  | v :: vs, rest => v.write (',' :: writeElements vs rest)

def writeMembers : List (List Char × Value) → List Char → List Char
  | [], rest => rest
  | [(key, v)], rest => writeString key (':' :: v.write rest)
  | (key, v) :: ms, rest => writeString key (':' :: v.write (',' :: writeMembers ms rest))

end

def render (v : Value) : String :=
  String.ofList (v.write [])

end Value

end CanonicalLR.Json
