/-! Sets of natural numbers as binary trees. Looking up and adding a number takes as many steps as it has
binary digits, however large the set is. -/
namespace CanonicalLR

/-- A set of natural numbers: whether zero is in it, the `n` for which `2 * n + 1` is in it, and the `n`
for which `2 * n + 2` is in it. -/
inductive NatSet where
  | empty
  | node (zero : Bool) (odd even : NatSet)

namespace NatSet

def contains : NatSet → Nat → Bool
  | empty, _ => false
  | node zero odd even, n =>
    if n = 0 then zero else if n % 2 = 1 then odd.contains (n / 2) else even.contains (n / 2 - 1)

/-- Adds a number that is less than `fuel`. -/
def insertBelow : Nat → Nat → NatSet → NatSet
  | 0, _, s => s
  | fuel + 1, n, node zero odd even =>
    if n = 0 then node true odd even
    else if n % 2 = 1 then node zero (insertBelow fuel (n / 2) odd) even
    else node zero odd (insertBelow fuel (n / 2 - 1) even)
  | fuel + 1, n, empty =>
    if n = 0 then node true empty empty
    else if n % 2 = 1 then node false (insertBelow fuel (n / 2) empty) empty
    else node false empty (insertBelow fuel (n / 2 - 1) empty)

def insert (s : NatSet) (n : Nat) : NatSet :=
  insertBelow (n + 1) n s

private theorem contains_insertBelow {fuel n : Nat} (h : n < fuel) (s : NatSet) (m : Nat) :
    (insertBelow fuel n s).contains m = (m == n || s.contains m) := by
  induction fuel generalizing n s m with
  | zero => omega
  | succ fuel ih =>
    have half : ∀ (a b : Nat), a % 2 = b % 2 → (a / 2 == b / 2) = (a == b) := fun a b h => by
      rw [Bool.eq_iff_iff, beq_iff_eq, beq_iff_eq]; omega
    have less : ∀ (a b : Nat), a ≠ 0 → b ≠ 0 → a % 2 ≠ 1 → b % 2 ≠ 1 →
        (a / 2 - 1 == b / 2 - 1) = (a == b) := fun a b _ _ _ _ => by
      rw [Bool.eq_iff_iff, beq_iff_eq, beq_iff_eq]; omega
    have apart : ∀ (a b : Nat), a % 2 ≠ b % 2 → (a == b) = false := fun a b _ => by
      rw [beq_eq_false_iff_ne]; omega
    by_cases hn : n = 0
    · by_cases hm : m = 0 <;> cases s <;> simp [insertBelow, contains, hn, hm]
    by_cases hm : m = 0
    · have hne : (0 == n) = false := by simpa using Ne.symm hn
      by_cases ho : n % 2 = 1 <;> cases s <;> simp [insertBelow, contains, hn, hm, ho, hne]
    by_cases ho : n % 2 = 1 <;> by_cases hp : m % 2 = 1
    · cases s <;> simp [insertBelow, contains, hn, hm, ho, hp, half m n (hp.trans ho.symm),
        ih (show n / 2 < fuel by omega)]
    · cases s <;> simp [insertBelow, contains, hn, hm, ho, hp, apart m n (by omega)]
    · cases s <;> simp [insertBelow, contains, hn, hm, ho, hp, apart m n (by omega)]
    · cases s <;> simp [insertBelow, contains, hn, hm, ho, hp, less m n hm hn hp ho,
        ih (show n / 2 - 1 < fuel by omega)]

/-- What a set holds after a number has been added. -/
@[simp] theorem contains_insert (s : NatSet) (n m : Nat) :
    (s.insert n).contains m = (m == n || s.contains m) :=
  contains_insertBelow (Nat.lt_succ_self n) s m

end NatSet

end CanonicalLR
