import CanonicalLR.Text.Class

/-! Tables of character properties. -/
namespace CanonicalLR.Text.Property

/-- A set of code points under the names it goes by. The rows hold hexadecimal numbers: the distances
between the places where membership changes, the first one counted from zero. -/
structure NamedRanges where
  names : List String
  rows : List String

namespace NamedRanges

private def hexValue (numeral : String) : Nat :=
  numeral.toList.foldl (fun n c => 16 * n + (hexDigit? c).getD 0) 0

private def runningSums : Nat → List Nat → List Nat
  | _, [] => []
  | n, d :: ds => (n + d) :: runningSums (n + d) ds

def bounds (r : NamedRanges) : List Nat :=
  runningSums 0 (r.rows.flatMap fun row => (row.splitOn " ").map hexValue)

end NamedRanges

def find? (table : List NamedRanges) (name : String) : Option (List Nat) :=
  (table.find? (·.names.contains name)).map (·.bounds)

end CanonicalLR.Text.Property
