import Mathlib.Order.Bounds.Defs
import Mathlib.Tactic.Tauto
import CanonicalLR.Proofs.Closure
import CanonicalLR.Proofs.Sentential

/-! Two searches that add to a set until nothing is new: rounds over all rules for first sets, and
looks at pending items for closures. Both come to rest. First sets are then those of derivations, and
a closure is the least set of items that holds what its members predict. -/
namespace CanonicalLR

/-- `S : A N ; A : A a | ; N : n N ;`, where `N` derives no string of tokens. -/
def Grammar.endless : Grammar Unit where
  definitions := [⟨"S", [⟨["A", "N"], none⟩]⟩, ⟨"A", [⟨["A", "a"], none⟩, ⟨[], none⟩]⟩,
    ⟨"N", [⟨["n", "N"], none⟩]⟩]
  distinct := by decide
  unrepeated := by decide
  augmented := ⟨["$", "a", "n"], ["$start", "S", "A", "N"],
    [⟨0, [.nonterminal 1], 0⟩, ⟨1, [.nonterminal 2, .nonterminal 3], 0⟩,
      ⟨2, [.nonterminal 2, .terminal 1], 0⟩, ⟨2, [], 1⟩, ⟨3, [.terminal 2, .nonterminal 3], 0⟩]⟩
  augmented_eq := by decide +kernel

namespace FirstSets

variable {α : Type}

/-- First sets are exact. The rounds come to rest, and the sets are those after the last round that
added something. The first set of a sequence of symbols holds the terminals with which a form derived
from the sequence begins, and the empty string if the empty form is derived. Symbols of the sequence
need not derive any string of tokens. -/
theorem ofSymbols_exact (g : Grammar α) :
    (∃ n, RestsAfter g.augmented (untold g.augmented) n ∧
      ofGrammar g.augmented = ⟨(round g.augmented)^[n] (untold g.augmented), n + 1⟩) ∧
    ∀ ss : List Symbol,
      (∀ t, t ∈ ((ofGrammar g.augmented).ofSymbols ss).terminals ↔
        ∃ form, g.augmented.Derives ss (.terminal t :: form)) ∧
      (((ofGrammar g.augmented).ofSymbols ss).nullable = true ↔ g.augmented.Derives ss []) := by
  refine ⟨ofGrammar_rests g.closed, fun ss => ⟨fun t => ?_, ?_⟩⟩
  · rw [← AugmentedGrammar.begins_some_iff]
    exact has_ofSymbols_iff g.closed (o := some t)
  · rw [← AugmentedGrammar.begins_none_iff]
    exact has_ofSymbols_iff g.closed (o := none)

/-- An `n` comes first behind an `A` that is empty, though no string of tokens is derived. -/
theorem ofSymbols_exact_endless :
    (∃ form, Grammar.endless.augmented.Derives [.nonterminal 2, .nonterminal 3]
      (.terminal 2 :: form)) ∧
    ¬ Grammar.endless.augmented.Derives [.nonterminal 2, .nonterminal 3] [] ∧
    Grammar.endless.augmented.Derives [.nonterminal 2] [] := by
  obtain ⟨-, hexact⟩ := ofSymbols_exact Grammar.endless
  refine ⟨((hexact _).1 2).1 (by decide +kernel), fun h => ?_, (hexact _).2.1 (by decide +kernel)⟩
  exact absurd ((hexact _).2.2 h) (by decide +kernel)

end FirstSets

namespace AugmentedGrammar

/-- The set holds what its items predict: with an item in front of a nonterminal the start of each of
its rules, with each terminal that begins a form derived from the symbols behind the nonterminal and
then the lookahead. -/
def Saturated (g : AugmentedGrammar) (items : Set Item) : Prop :=
  ∀ i ∈ items, ∀ (rule : Production) (β form : List Symbol) (r b : Nat),
    g.remaining i = .nonterminal rule.left :: β → g.rules[r]? = some rule →
    g.Derives (β ++ [.terminal i.lookahead]) (.terminal b :: form) → ⟨r, 0, b⟩ ∈ items

variable {g : AugmentedGrammar}

private theorem saturated_iff {items : Set Item} :
    g.Saturated items ↔ ∀ i ∈ items, ∀ j, g.Predicts i j → j ∈ items := by
  constructor
  · rintro h i hi j ⟨β, rule, hr, hrem, hm, hb⟩
    obtain ⟨form, hd⟩ := begins_some_iff.1 hb
    have hj : j = ⟨j.rule, 0, j.lookahead⟩ := by rw [← hm]
    rw [hj]
    exact h i hi rule β form _ _ hrem hr hd
  · intro h i hi rule β form r b hrem hr hd
    exact h i hi _ ⟨β, rule, hr, hrem, rfl, begins_some_iff.2 ⟨form, hd⟩⟩

private theorem closure_isLeast (hg : g.Closed) (kernel : List Item) :
    IsLeast {items : Set Item | (∀ i ∈ kernel, i ∈ items) ∧ g.Saturated items}
      {i | i ∈ g.closure (.ofGrammar g) kernel} := by
  refine ⟨⟨fun i hi => ?_, saturated_iff.2 fun i hi j hp => ?_⟩, fun items hitems i hi => ?_⟩
  · exact (mem_closure_iff hg).2 (.kernel hi)
  · exact (mem_closure_iff hg).2 (.predicted ((mem_closure_iff hg).1 hi) hp)
  · obtain ⟨hkernel, hsaturated⟩ := hitems
    have hr : g.Reached kernel i := (mem_closure_iff hg).1 hi
    induction hr with
    | kernel hk => exact hkernel _ hk
    | predicted hr hp ih => exact saturated_iff.1 hsaturated _ (ih ((mem_closure_iff hg).2 hr)) _ hp

private theorem closure_mono (hg : g.Closed) {kernel other : List Item}
    (h : ∀ i ∈ kernel, i ∈ other) {i : Item} (hi : i ∈ g.closure (.ofGrammar g) kernel) :
    i ∈ g.closure (.ofGrammar g) other := by
  obtain ⟨hother, hsaturated⟩ := (closure_isLeast hg other).1
  exact (closure_isLeast hg kernel).2 ⟨fun j hj => hother j (h j hj), hsaturated⟩ hi

private theorem closure_congr (hg : g.Closed) {kernel other : List Item}
    (h : ∀ i, i ∈ other ↔ i ∈ kernel) :
    g.closure (.ofGrammar g) other = g.closure (.ofGrammar g) kernel := by
  apply SortedSet.ext_mem
  intro i
  exact ⟨closure_mono hg fun j => (h j).1, closure_mono hg fun j => (h j).2⟩

private theorem closure_closure (hg : g.Closed) (kernel : List Item) :
    g.closure (.ofGrammar g) (g.closure (.ofGrammar g) kernel).toList =
      g.closure (.ofGrammar g) kernel := by
  have hleast := closure_isLeast hg (g.closure (.ofGrammar g) kernel).toList
  apply SortedSet.ext_mem
  intro i
  constructor
  · intro hi
    exact hleast.2 ⟨fun j hj => hj, (closure_isLeast hg kernel).1.2⟩ hi
  · exact hleast.1.1 i

end AugmentedGrammar

namespace Grammar

open AugmentedGrammar

variable {α : Type}

def closure (g : Grammar α) (kernel : List Item) : ItemSet :=
  g.augmented.closure (.ofGrammar g.augmented) kernel

/-- The closure of a kernel is the least set that holds the kernel and what its own items predict. The
search for it ends with no item pending when each of its items was looked at once. The closure does
not depend on the order of the kernel or on repetitions in it, grows with the kernel, and is its own
closure. -/
theorem closure_least (g : Grammar α) (kernel : List Item) :
    (g.augmented.look (.ofGrammar g.augmented))^[(g.closure kernel).size]
      (kernel.foldl discover (.empty, [])) = (g.closure kernel, []) ∧
    IsLeast {items : Set Item | (∀ i ∈ kernel, i ∈ items) ∧ g.augmented.Saturated items}
      {i | i ∈ g.closure kernel} ∧
    (∀ other : List Item, (∀ i, i ∈ other ↔ i ∈ kernel) → g.closure other = g.closure kernel) ∧
    (∀ other : List Item, (∀ i ∈ kernel, i ∈ other) →
      ∀ i ∈ g.closure kernel, i ∈ g.closure other) ∧
    g.closure (g.closure kernel).toList = g.closure kernel := by
  refine ⟨iterate_look g.closed kernel, closure_isLeast g.closed kernel, fun other h => ?_,
    fun other h i hi => ?_, closure_closure g.closed kernel⟩
  · exact closure_congr g.closed h
  · exact closure_mono g.closed h hi

/-- A kernel that repeats an item, over a grammar with an unproductive expression. -/
theorem closure_least_endless :
    endless.closure [⟨1, 1, 0⟩, ⟨1, 0, 0⟩, ⟨1, 1, 0⟩] = endless.closure [⟨1, 0, 0⟩, ⟨1, 1, 0⟩] ∧
    ⟨4, 0, 0⟩ ∈ endless.closure [⟨1, 0, 0⟩, ⟨1, 1, 0⟩] := by
  have hmem : ∀ i : Item, i ∈ [⟨1, 1, 0⟩, ⟨1, 0, 0⟩, ⟨1, 1, 0⟩] ↔
      i ∈ [(⟨1, 0, 0⟩ : Item), ⟨1, 1, 0⟩] := by
    intro i
    simp only [List.mem_cons, List.not_mem_nil]
    tauto
  obtain ⟨-, -, hsame, -⟩ := closure_least endless [⟨1, 0, 0⟩, ⟨1, 1, 0⟩]
  obtain ⟨-, -, -, hgrows, -⟩ := closure_least endless [⟨1, 1, 0⟩]
  exact ⟨hsame _ hmem, hgrows _ (by simp) _ (by decide +kernel)⟩

end Grammar

end CanonicalLR
