import CanonicalLR.First

/-! Items and their closure. -/
namespace CanonicalLR

/-- A rule that has been read up to `marker`, and the terminal expected behind it. -/
structure Item where
  rule : Nat
  marker : Nat
  lookahead : Nat
deriving DecidableEq

namespace Item

/-- Items are ordered by rule, then by marker, then by lookahead. -/
def before (a b : Item) : Prop :=
  a.rule < b.rule ∨ a.rule = b.rule ∧
    (a.marker < b.marker ∨ a.marker = b.marker ∧ a.lookahead < b.lookahead)

instance : LT Item := ⟨before⟩

private theorem lt_def (a b : Item) : a < b ↔ a.rule < b.rule ∨ a.rule = b.rule ∧
    (a.marker < b.marker ∨ a.marker = b.marker ∧ a.lookahead < b.lookahead) := Iff.rfl

instance : DecidableLT Item := fun a b => decidable_of_iff _ (lt_def a b).symm

instance : Trans (α := Item) (· < ·) (· < ·) (· < ·) where
  trans {a b c} h k := by
    simp only [lt_def] at *
    omega

instance : Std.Irrefl (α := Item) (· < ·) where
  irrefl a h := by
    simp only [lt_def] at h
    omega

instance : Std.Trichotomous (α := Item) (· < ·) where
  trichotomous a b h k := by
    obtain ⟨r, m, l⟩ := a
    obtain ⟨r', m', l'⟩ := b
    simp only [lt_def, mk.injEq] at *
    omega

def advance (item : Item) : Item :=
  { item with marker := item.marker + 1 }

end Item

/-- A set of items, listed in item order. -/
abbrev ItemSet := SortedSet Item

namespace AugmentedGrammar

def remaining (g : AugmentedGrammar) (item : Item) : List Symbol :=
  match g.rules[item.rule]? with
  | some rule => rule.right.drop item.marker
  | none => []

def next? (g : AugmentedGrammar) (item : Item) : Option Symbol :=
  (g.remaining item).head?

/-- The items that an item predicts: if a nonterminal is next, the start of each of its rules with
each terminal that can come behind the nonterminal. -/
def predicted (g : AugmentedGrammar) (fs : FirstSets) (item : Item) : List Item :=
  match g.remaining item with
  | .nonterminal n :: rest =>
    (g.rulesOf n).flatMap fun r =>
      (fs.lookaheads rest item.lookahead).toList.map fun t => ⟨r, 0, t⟩
  | _ => []

def discover (found : ItemSet × List Item) (item : Item) : ItemSet × List Item :=
  if item ∈ found.1 then found else (found.1.insert item, item :: found.2)

def expand (g : AugmentedGrammar) (fs : FirstSets) : Nat → ItemSet × List Item → ItemSet
  | 0, (items, _) => items
  | _ + 1, (items, []) => items
  | fuel + 1, (items, item :: pending) =>
    expand g fs fuel ((g.predicted fs item).foldl discover (items, pending))

/-- A number of items that no closure of `kernel` exceeds: those of the kernel, and for every rule
its start with every lookahead. -/
def closureBound (g : AugmentedGrammar) (kernel : List Item) : Nat :=
  kernel.length + g.rules.length * (g.terminals.length + kernel.length)

/-- The least set that holds the kernel and all items that its members predict. -/
def closure (g : AugmentedGrammar) (fs : FirstSets) (kernel : List Item) : ItemSet :=
  g.expand fs (g.closureBound kernel + 1) (kernel.foldl discover (.empty, []))

def initialItems (g : AugmentedGrammar) (fs : FirstSets) : ItemSet :=
  g.closure fs [⟨acceptRule, 0, Symbol.endId⟩]

/-- The items after reading `s`; there are none if `s` can not be read. -/
def goto (g : AugmentedGrammar) (fs : FirstSets) (items : ItemSet) (s : Symbol) : ItemSet :=
  g.closure fs ((items.toList.filter fun item => g.next? item = some s).map Item.advance)

/-- `rule [lookahead]` with the marker in the rule. -/
def renderItem (g : AugmentedGrammar) (item : Item) : String :=
  (match g.rules[item.rule]? with
    | some rule => g.renderRule rule item.marker
    | none => "") ++ "  [" ++ g.symbolName (.terminal item.lookahead) ++ "]"

end AugmentedGrammar

end CanonicalLR
