/-! Numbers in JSON as they are written, and whether a double-precision number can hold them. -/
namespace CanonicalLR.Json

/-- A number as written: sign, whole part, digits behind the point, and exponent with its sign. -/
structure Number where
  negative : Bool
  whole : Nat
  fraction : Option (List Char)
  exponent : Option (Bool × Nat)
deriving DecidableEq

namespace Number

def ofNat (n : Nat) : Number := ⟨false, n, none, none⟩

/-- The natural number that is written; numbers with a sign, a point or an exponent are none. -/
def toNat? (n : Number) : Option Nat :=
  if n.negative || n.fraction.isSome || n.exponent.isSome then none else some n.whole

def digitsValue (digits : List Char) : Nat :=
  digits.foldl (fun v c => 10 * v + (c.toNat - '0'.toNat)) 0

/-- Appends digits to `significand` as long as it stays below 2^64, and says how many were left out. -/
def appendDigits (significand : Nat) : List Char → Nat × Nat
  | [] => (significand, 0)
  | c :: digits =>
    let longer := 10 * significand + (c.toNat - '0'.toNat)
    if longer < Nat.pow 2 64 then appendDigits longer digits else (significand, digits.length + 1)

/-- The nearest natural number with at most 53 significant bits, an even one if two are near. -/
def round53 (n : Nat) : Nat :=
  let unit := Nat.pow 2 (n.log2 - 52)
  let rest := n % unit
  let up := unit < 2 * rest || (2 * rest == unit && n / unit % 2 == 1)
  (if up then n / unit + 1 else n / unit) * unit

/-- The smallest magnitude that no double-precision number comes near. -/
def overflow : Nat := Nat.pow 2 1024 - Nat.pow 2 970

/-- The number has a finite double-precision value when it is read in two steps: the digits that fit
into 64 bits, rounded, times a rounded power of ten. No rounding makes a number infinite whose power of
ten is negative. -/
def isFinite (n : Number) : Bool :=
  let (significand, dropped) := appendDigits 0 (Nat.toDigits 10 n.whole)
  let fraction := n.fraction.getD []
  let (significand, unused) := appendDigits significand fraction
  let places := fraction.length - unused
  let (down, shift) := n.exponent.getD (false, 0)
  let up := dropped + if down then 0 else shift
  let back := places + if down then shift else 0
  significand == 0 || up < back
    || (up - back ≤ 308 && round53 significand * round53 (Nat.pow 10 (up - back)) < overflow)

end Number

end CanonicalLR.Json
