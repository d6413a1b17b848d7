import Mathlib.Logic.Equiv.Basic
import CanonicalLR.Proofs.Likeness

/-! Names and order play no part. A grammar whose symbols are renamed, with its alternatives and the
definitions behind the first in another order, has a table if and only if the grammar has one, has an
automaton with as many states, and yields the renamed trees for renamed tokens. -/
namespace CanonicalLR

/-- A change of names under which no two become the same. The reserved names stay as they are. -/
structure Renaming where
  rename : String → String
  injective : Function.Injective rename
  keeps_end : rename endName = endName
  keeps_start : rename startName = startName

instance : CoeFun Renaming fun _ => String → String := ⟨Renaming.rename⟩

namespace Renaming

variable (ρ : Renaming)

/-- The way back: a name that is no new name goes to the end of the input, which nothing defines. -/
noncomputable def original : String → String :=
  Function.extend ρ id fun _ => endName

private theorem original_rename (name : String) : ρ.original (ρ name) = name :=
  ρ.injective.extend_apply _ _ name

/-- The names `A` and `b` change places. -/
def crossing : Renaming where
  rename := Equiv.swap "A" "b"
  injective := (Equiv.swap "A" "b").injective
  keeps_end := by decide
  keeps_start := by decide

end Renaming

def Token.rename (f : String → String) (token : Token) : Token :=
  { token with name := f token.name }

namespace Tree

mutual

/-- The tree over renamed tokens, its nodes renamed and their alternatives renumbered. -/
def relabel (f : String → String) (number : String → Nat → Nat) : Tree → Tree
  | leaf token => leaf (token.rename f)
  | node expression k children =>
    node (f expression) (number expression k) (relabelAll f number children)

def relabelAll (f : String → String) (number : String → Nat → Nat) : List Tree → List Tree
  | [] => []
  | t :: ts => t.relabel f number :: relabelAll f number ts

end

variable (f : String → String) (number : String → Nat → Nat)

private theorem relabelAll_eq_map (ts : List Tree) :
    relabelAll f number ts = ts.map (relabel f number) := by
  induction ts with
  | nil => rfl
  | cons t ts ih => rw [relabelAll, ih, List.map_cons]

@[simp] theorem name_relabel (t : Tree) : (t.relabel f number).name = f t.name := by
  cases t <;> rfl

mutual

private theorem leaves_relabel : (t : Tree) → (t.relabel f number).leaves = t.leaves.map (.rename f)
  | leaf _ => rfl
  | node _ _ children => leavesOfAll_relabelAll children

private theorem leavesOfAll_relabelAll : (ts : List Tree) →
    leavesOfAll (relabelAll f number ts) = (leavesOfAll ts).map (.rename f)
  | [] => rfl
  | t :: ts => by
    rw [relabelAll, leavesOfAll, leavesOfAll, leaves_relabel t, leavesOfAll_relabelAll ts,
      List.map_append]

end

end Tree

/-- The definition under its new name, over renamed symbols and with its alternatives in any order. -/
def Definition.Renamed {α β : Type} (ρ : Renaming) (d : Definition α) (d' : Definition β) : Prop :=
  d'.name = ρ d.name ∧
    (d.alternatives.map fun a => a.symbols.map ρ).Perm (d'.alternatives.map (·.symbols))

private theorem Definition.Renamed.exists_alternative {α β : Type} {ρ : Renaming} {d : Definition α}
    {d' : Definition β} (h : d.Renamed ρ d') :
    (∀ a ∈ d.alternatives, ∃ a' ∈ d'.alternatives, a'.symbols = a.symbols.map ρ) ∧
    ∀ a' ∈ d'.alternatives, ∃ a ∈ d.alternatives, a'.symbols = a.symbols.map ρ := by
  constructor
  · intro a ha
    obtain ⟨a', ha', hs⟩ := List.mem_map.1 (h.2.mem_iff.1 (List.mem_map_of_mem ha))
    exact ⟨a', ha', hs⟩
  · intro a' ha'
    obtain ⟨a, ha, hs⟩ := List.mem_map.1 (h.2.mem_iff.2 (List.mem_map_of_mem ha'))
    exact ⟨a, ha, hs.symm⟩

namespace Grammar

open AugmentedGrammar

variable {α β : Type}

/-- The first definition is renamed, and the others are renamed and put in any order. -/
def Renamed (ρ : Renaming) (g : Grammar α) (g' : Grammar β) : Prop :=
  ∃ first rest first' rest' moved, g.definitions = first :: rest ∧
    g'.definitions = first' :: rest' ∧ first.Renamed ρ first' ∧
    List.Forall₂ (Definition.Renamed ρ) rest moved ∧ moved.Perm rest'

/-- The number of the alternative of the second grammar whose symbols are those of an alternative of
the first, renamed. -/
def renumber (f : String → String) (g : Grammar α) (g' : Grammar β) (name : String) (k : Nat) : Nat :=
  Option.getD (do
    let a ← (← g.definition? name).alternatives[k]?
    (← g'.definition? (f name)).alternatives.findIdx? (·.symbols = a.symbols.map f)) k

/-- A change of names takes the start, the definitions and the undefined names of the first grammar
to those of the second. -/
structure Carries (f : String → String) (g : Grammar α) (g' : Grammar β) : Prop where
  start : g'.start = f g.start
  undefined {name : String} : g.definition? name = none → g'.definition? (f name) = none
  alternative {name : String} {d : Definition α} {a : Alternative α} :
    g.definition? name = some d → a ∈ d.alternatives →
      ∃ d' a', g'.definition? (f name) = some d' ∧ a' ∈ d'.alternatives ∧
        a'.symbols = a.symbols.map f

namespace Carries

variable {f : String → String} {g : Grammar α} {g' : Grammar β}

private theorem renumber (h : Carries f g g') {name : String} {d : Definition α} {k : Nat}
    {a : Alternative α} (hd : g.definition? name = some d) (ha : d.alternatives[k]? = some a) :
    ∃ d' a', g'.definition? (f name) = some d' ∧
      d'.alternatives[g.renumber f g' name k]? = some a' ∧ a'.symbols = a.symbols.map f := by
  obtain ⟨d', a', hd', ha', hs⟩ := h.alternative hd (List.mem_of_getElem? ha)
  obtain ⟨n, hn⟩ : ∃ n, d'.alternatives.findIdx? (·.symbols = a.symbols.map f) = some n := by
    rw [← Option.isSome_iff_exists, List.findIdx?_isSome, List.any_eq_true]
    exact ⟨a', ha', by simpa using hs⟩
  obtain ⟨hlt, hfound, -⟩ := List.findIdx?_eq_some_iff_getElem.1 hn
  refine ⟨d', d'.alternatives[n], hd', ?_, by simpa using hfound⟩
  have hnumber : g.renumber f g' name k = n := by
    simp [Grammar.renumber, hd, ha, hd', hn]
  rw [hnumber, List.getElem?_eq_getElem hlt]

/-- Derivation trees are carried along. -/
theorem derived (h : Carries f g g') {tree : Tree} (ht : tree.Derived g) :
    (tree.relabel f (g.renumber f g')).Derived g' := by
  induction ht with
  | leaf hd => exact .leaf (h.undefined hd)
  | node hd ha hc _ ih =>
    obtain ⟨d', a', hd', ha', hs⟩ := h.renumber hd ha
    refine .node hd' ha' ?_ fun c hm => ?_
    · rw [Tree.relabelAll_eq_map, List.map_map, hs, ← hc, List.map_map]
      exact List.map_congr_left fun t _ => Tree.name_relabel f _ t
    · rw [Tree.relabelAll_eq_map] at hm
      obtain ⟨t, ht, rfl⟩ := List.mem_map.1 hm
      exact ih t ht

private theorem whole (h : Carries f g g') {tree : Tree} (ht : tree.Whole g) :
    (tree.relabel f (g.renumber f g')).Whole g' := by
  obtain ⟨hd, k, children, rfl⟩ := ht
  exact ⟨h.derived hd, g.renumber f g' g.start k, _, by rw [h.start]; rfl⟩

end Carries

namespace Renamed

variable {ρ : Renaming} {g : Grammar α} {g' : Grammar β}

private theorem exists_mem_right {γ δ : Type} {P : γ → δ → Prop} {xs : List γ} {ys : List δ}
    (h : List.Forall₂ P xs ys) {x : γ} (hx : x ∈ xs) : ∃ y ∈ ys, P x y := by
  induction h with
  | nil => cases hx
  | @cons a b as bs hab _ ih =>
    rcases List.mem_cons.1 hx with rfl | hx
    · exact ⟨b, List.mem_cons_self, hab⟩
    · obtain ⟨y, hy, hp⟩ := ih hx
      exact ⟨y, List.mem_cons_of_mem _ hy, hp⟩

private theorem forall₂_definitions (h : g.Renamed ρ g') :
    ∃ moved, List.Forall₂ (Definition.Renamed ρ) g.definitions moved ∧
      moved.Perm g'.definitions := by
  obtain ⟨first, rest, first', rest', moved, hg, hg', hfirst, hrest, hperm⟩ := h
  refine ⟨first' :: moved, ?_, ?_⟩
  · rw [hg]
    exact .cons hfirst hrest
  · rw [hg']
    exact hperm.cons first'

private theorem exists_definition (h : g.Renamed ρ g') {name : String} {d : Definition α}
    (hd : g.definition? name = some d) :
    ∃ d', g'.definition? (ρ name) = some d' ∧ d.Renamed ρ d' := by
  obtain ⟨moved, hall, hperm⟩ := h.forall₂_definitions
  obtain ⟨hmem, rfl⟩ := g.definition?_eq_some_iff.1 hd
  obtain ⟨d', hd', hren⟩ := exists_mem_right hall hmem
  exact ⟨d', g'.definition?_eq_some_iff.2 ⟨hperm.mem_iff.1 hd', hren.1⟩, hren⟩

private theorem exists_origin (h : g.Renamed ρ g') {name' : String} {d' : Definition β}
    (hd : g'.definition? name' = some d') :
    ∃ d, g.definition? d.name = some d ∧ name' = ρ d.name ∧ d.Renamed ρ d' := by
  obtain ⟨moved, hall, hperm⟩ := h.forall₂_definitions
  obtain ⟨hmem, rfl⟩ := g'.definition?_eq_some_iff.1 hd
  obtain ⟨d, hd, hren⟩ := exists_mem_right hall.flip (hperm.mem_iff.2 hmem)
  exact ⟨d, g.definition?_eq_some_iff.2 ⟨hd, rfl⟩, hren.1, hren⟩

private theorem start_eq (h : g.Renamed ρ g') : g'.start = ρ g.start := by
  obtain ⟨first, rest, first', rest', moved, hg, hg', hfirst, -, -⟩ := h
  have hstart := g.start_eq
  have hstart' := g'.start_eq
  rw [hg, List.head?_cons, Option.map_some, Option.some.injEq] at hstart
  rw [hg', List.head?_cons, Option.map_some, Option.some.injEq] at hstart'
  rw [← hstart, ← hstart', hfirst.1]

private theorem definition?_eq_none_iff (h : g.Renamed ρ g') {name : String} :
    g'.definition? (ρ name) = none ↔ g.definition? name = none := by
  simp only [Option.eq_none_iff_forall_ne_some]
  constructor
  · intro hnone d hd
    obtain ⟨d', hd', -⟩ := h.exists_definition hd
    exact hnone d' hd'
  · intro hnone d' hd'
    obtain ⟨d, hd, hname, -⟩ := h.exists_origin hd'
    exact hnone d (ρ.injective hname ▸ hd)

end Renamed

variable {ρ : Renaming} {g : Grammar α} {g' : Grammar β}

def Namesake (ρ : Renaming) (g : Grammar α) (g' : Grammar β) (s s' : Symbol) : Prop :=
  g.augmented.Known s ∧ g'.augmented.Known s' ∧
    g'.augmented.symbolName s' = ρ (g.augmented.symbolName s)

private theorem namesake_unique {s s' r r' : Symbol} (hs : Namesake ρ g g' s s')
    (hr : Namesake ρ g g' r r') : s = r ↔ s' = r' := by
  obtain ⟨hks, hks', hns⟩ := hs
  obtain ⟨hkr, hkr', hnr⟩ := hr
  constructor
  · rintro rfl
    exact g'.symbolName_inj hks' hkr' (hns.trans hnr.symm)
  · rintro rfl
    exact g.symbolName_inj hks hkr (ρ.injective (hns.symm.trans hnr))

private theorem forall₂_namesake {ss ss' : List Symbol} (hs : ∀ s ∈ ss, g.augmented.Known s)
    (hs' : ∀ s ∈ ss', g'.augmented.Known s)
    (hn : ss'.map g'.augmented.symbolName = (ss.map g.augmented.symbolName).map ρ) :
    List.Forall₂ (Namesake ρ g g') ss ss' := by
  induction ss generalizing ss' with
  | nil =>
    rw [List.map_eq_nil_iff.1 hn]
    exact .nil
  | cons s ss ih =>
    cases ss' with
    | nil => cases hn
    | cons s' ss' =>
      obtain ⟨hone, hn⟩ := List.cons.inj hn
      refine .cons ⟨hs s List.mem_cons_self, hs' s' List.mem_cons_self, hone⟩ (ih ?_ ?_ hn)
      · exact fun r hr => hs r (List.mem_cons_of_mem _ hr)
      · exact fun r hr => hs' r (List.mem_cons_of_mem _ hr)

private theorem sameRule_of_names {r r' : Nat} {rule rule' : Production}
    (hr : g.augmented.rules[r]? = some rule) (hr' : g'.augmented.rules[r']? = some rule')
    (hl : g'.augmented.symbolName (.nonterminal rule'.left) =
      ρ (g.augmented.symbolName (.nonterminal rule.left)))
    (hs : rule'.right.map g'.augmented.symbolName =
      (rule.right.map g.augmented.symbolName).map ρ) :
    SameRule g.augmented g'.augmented (Namesake ρ g g') r r' := by
  obtain ⟨hk, hks⟩ := g.closed rule (List.mem_of_getElem? hr)
  obtain ⟨hk', hks'⟩ := g'.closed rule' (List.mem_of_getElem? hr')
  exact ⟨rule, rule', hr, hr', ⟨hk, hk', hl⟩, forall₂_namesake hks hks' hs⟩

private theorem sameRule_unique {r r' p p' : Nat}
    (hr : SameRule g.augmented g'.augmented (Namesake ρ g g') r r')
    (hp : SameRule g.augmented g'.augmented (Namesake ρ g g') p p') : r = p ↔ r' = p' := by
  obtain ⟨rule, rule', hrg, hrh, hrl, hrr⟩ := hr
  obtain ⟨other, other', hpg, hph, hpl, hpr⟩ := hp
  have hright : Relator.BiUnique (Namesake ρ g g') :=
    ⟨fun _ _ _ hs ht => (namesake_unique hs ht).2 rfl,
      fun _ _ _ hs ht => (namesake_unique hs ht).1 rfl⟩
  constructor
  · rintro rfl
    cases hrg.symm.trans hpg
    exact g'.rule_ext hrh hph (Symbol.nonterminal.inj (hright.2 hrl hpl))
      (hright.2.forall₂ hrr hpr)
  · rintro rfl
    cases hrh.symm.trans hph
    exact g.rule_ext hrg hpg (Symbol.nonterminal.inj (hright.1 hrl hpl))
      (hright.1.forall₂ hrr hpr)

namespace Renamed

private theorem namesake_kind (h : g.Renamed ρ g') {s s' : Symbol} (hs : Namesake ρ g g' s s') :
    (∃ t, s = .terminal t) ↔ ∃ t, s' = .terminal t := by
  obtain ⟨hk, hk', hn⟩ := hs
  rw [g.terminal_iff hk, g'.terminal_iff hk', hn, h.definition?_eq_none_iff, ne_eq, ne_eq,
    ← ρ.injective.eq_iff (a := g.augmented.symbolName s), ρ.keeps_start]

private theorem sameRule_accept (h : g.Renamed ρ g') :
    SameRule g.augmented g'.augmented (Namesake ρ g g') acceptRule acceptRule := by
  apply sameRule_of_names g.rules_zero g'.rules_zero
  · rw [g.symbolName_startId, g'.symbolName_startId, ρ.keeps_start]
  · exact congrArg (fun name => [name]) h.start_eq

/-- Each rule has one like it in the renamed grammar: the same alternative, at another place. -/
private theorem exists_sameRule (h : g.Renamed ρ g') {r : Nat} {rule : Production}
    (hr : g.augmented.rules[r]? = some rule) :
    ∃ r', SameRule g.augmented g'.augmented (Namesake ρ g g') r r' := by
  by_cases h0 : r = acceptRule
  · exact ⟨acceptRule, h0 ▸ h.sameRule_accept⟩
  · obtain ⟨-, d, a, hd, ha, hs⟩ := g.definition_of_rule hr h0
    obtain ⟨d', hd', hren⟩ := h.exists_definition hd
    obtain ⟨a', ha', hs'⟩ := hren.exists_alternative.1 a (List.mem_of_getElem? ha)
    obtain ⟨k', hk'⟩ := List.getElem?_of_mem ha'
    obtain ⟨r', rule', hr', -, -, hl, hright⟩ := g'.rule_of_definition hd' hk'
    exact ⟨r', sameRule_of_names hr hr' hl (by rw [hright, hs', hs])⟩

private theorem exists_sameRule_back (h : g.Renamed ρ g') {r' : Nat} {rule' : Production}
    (hr' : g'.augmented.rules[r']? = some rule') :
    ∃ r, SameRule g.augmented g'.augmented (Namesake ρ g g') r r' := by
  by_cases h0 : r' = acceptRule
  · exact ⟨acceptRule, h0 ▸ h.sameRule_accept⟩
  · obtain ⟨-, d', a', hd', ha', hs'⟩ := g'.definition_of_rule hr' h0
    obtain ⟨d, hd, hname, hren⟩ := h.exists_origin hd'
    obtain ⟨a, ha, hs⟩ := hren.exists_alternative.2 a' (List.mem_of_getElem? ha')
    obtain ⟨k, hk⟩ := List.getElem?_of_mem ha
    obtain ⟨r, rule, hr, -, -, hl, hright⟩ := g.rule_of_definition hd hk
    exact ⟨r, sameRule_of_names hr hr' (by rw [hname, hl]) (by rw [hright, hs', hs])⟩

/-- A grammar and its renamed form are alike. -/
theorem alike (h : g.Renamed ρ g') : Alike g.augmented g'.augmented (Namesake ρ g g') where
  unique := namesake_unique
  kind := h.namesake_kind
  ends := ⟨g.endId_known, g'.endId_known, by
    rw [g.symbolName_endId, g'.symbolName_endId, ρ.keeps_end]⟩
  accept := h.sameRule_accept
  forth := h.exists_sameRule
  back := h.exists_sameRule_back
  distinct := sameRule_unique

private theorem carries (h : g.Renamed ρ g') : Carries ρ g g' where
  start := h.start_eq
  undefined := h.definition?_eq_none_iff.2
  alternative hd ha := by
    obtain ⟨d', hd', hren⟩ := h.exists_definition hd
    obtain ⟨a', ha', hs⟩ := hren.exists_alternative.1 _ ha
    exact ⟨d', a', hd', ha', hs⟩

private theorem carries_back (h : g.Renamed ρ g') : Carries ρ.original g' g where
  start := by rw [h.start_eq, ρ.original_rename]
  undefined {name'} hnone := by
    by_cases hrange : ∃ name, ρ name = name'
    · obtain ⟨name, rfl⟩ := hrange
      rw [ρ.original_rename]
      exact h.definition?_eq_none_iff.1 hnone
    · rw [Renaming.original, Function.extend_apply' _ _ _ hrange, ← g.symbolName_endId]
      exact g.definition?_terminal g.endId_known
  alternative hd' ha' := by
    obtain ⟨d, hd, rfl, hren⟩ := h.exists_origin hd'
    obtain ⟨a, ha, hs⟩ := hren.exists_alternative.2 _ ha'
    refine ⟨d, a, by rwa [ρ.original_rename], ha, ?_⟩
    simp [hs, ρ.original_rename, Function.comp_def]

private theorem parse_renamed (h : g.Renamed ρ g') {t t' : Table} (ht : Table.ofGrammar g = .ok t)
    (ht' : Table.ofGrammar g' = .ok t') (ts : List Token) :
    (∃ tree fuel fuel', t.parseTokens fuel ts = .tree tree ∧
      t'.parseTokens fuel' (ts.map (.rename ρ)) = .tree (tree.relabel ρ (g.renumber ρ g'))) ∨
    ∀ tree fuel, t.parseTokens fuel ts ≠ .tree tree ∧
      t'.parseTokens fuel (ts.map (.rename ρ)) ≠ .tree tree := by
  by_cases hex : ∃ tree : Tree, tree.Whole g ∧ tree.leaves = ts
  · obtain ⟨tree, hw, rfl⟩ := hex
    obtain ⟨fuel, hf⟩ := Parser.parse_of_whole ht hw
    obtain ⟨fuel', hf'⟩ := Parser.parse_of_whole ht' (h.carries.whole hw)
    rw [Tree.leaves_relabel] at hf'
    exact .inl ⟨tree, fuel, fuel', hf, hf'⟩
  · refine .inr fun tree fuel => ⟨fun hf => ?_, fun hf => ?_⟩
    · exact hex ⟨tree, Parser.whole_of_parse ht hf⟩
    · -- the renamed tree, taken back, would be one for the tokens
      obtain ⟨hw, hl⟩ := Parser.whole_of_parse ht' hf
      refine hex ⟨_, h.carries_back.whole hw, ?_⟩
      rw [Tree.leaves_relabel, hl, List.map_map]
      have hid : Token.rename ρ.original ∘ Token.rename ρ = id := by
        funext token
        simp [Token.rename, ρ.original_rename]
      rw [hid, List.map_id]

/-- Only the structure of a grammar matters. If its symbols are renamed, and its alternatives and the
definitions behind the first are put in another order, then both grammars have tables or neither has,
and their automata have the same number of states. Over both tables, either no tree is returned for
some tokens and none for the same tokens renamed, or the second tree is the first with its tokens and
nodes renamed, where each alternative has the number of the alternative that it became. -/
theorem invariance (h : g.Renamed ρ g') :
    ((∃ t, Table.ofGrammar g = .ok t) ↔ ∃ t, Table.ofGrammar g' = .ok t) ∧
    g.automaton.states.length = g'.automaton.states.length ∧
    (∀ name d k a, g.definition? name = some d → d.alternatives[k]? = some a →
      ∃ d' a', g'.definition? (ρ name) = some d' ∧
        d'.alternatives[g.renumber ρ g' name k]? = some a' ∧ a'.symbols = a.symbols.map ρ) ∧
    ∀ t t', Table.ofGrammar g = .ok t → Table.ofGrammar g' = .ok t' → ∀ ts : List Token,
      (∃ tree fuel fuel', t.parseTokens fuel ts = .tree tree ∧
        t'.parseTokens fuel' (ts.map (.rename ρ)) = .tree (tree.relabel ρ (g.renumber ρ g'))) ∨
      ∀ tree fuel, t.parseTokens fuel ts ≠ .tree tree ∧
        t'.parseTokens fuel (ts.map (.rename ρ)) ≠ .tree tree := by
  have ha := h.alike
  refine ⟨⟨ha.exists_table, ha.symm.exists_table⟩, ?_, fun name d k a hd hk => ?_,
    fun t t' ht ht' ts => h.parse_renamed ht ht' ts⟩
  · exact Nat.le_antisymm ha.length_states_le ha.symm.length_states_le
  · exact h.carries.renumber hd hk

end Renamed

/-- `S : A B ; A : a A | d ; B : b ;` -/
def plainGrammar : Grammar Unit where
  definitions := [⟨"S", [⟨["A", "B"], none⟩]⟩, ⟨"A", [⟨["a", "A"], none⟩, ⟨["d"], none⟩]⟩,
    ⟨"B", [⟨["b"], none⟩]⟩]
  distinct := by decide
  unrepeated := by decide
  augmented := ⟨["$", "a", "d", "b"], ["$start", "S", "A", "B"],
    [⟨0, [.nonterminal 1], 0⟩, ⟨1, [.nonterminal 2, .nonterminal 3], 0⟩,
      ⟨2, [.terminal 1, .nonterminal 2], 0⟩, ⟨2, [.terminal 2], 1⟩, ⟨3, [.terminal 3], 0⟩]⟩
  augmented_eq := by decide +kernel

def plainTable : Table := plainGrammar.tableOrEmpty

def plainTree (a d b : Token) : Tree :=
  .node "S" 0 [.node "A" 0 [.leaf a, .node "A" 1 [.leaf d]], .node "B" 0 [.leaf b]]

/-- `S : b B ; B : A ; b : d | a b ;` -/
def crossedGrammar : Grammar Unit where
  definitions := [⟨"S", [⟨["b", "B"], none⟩]⟩, ⟨"B", [⟨["A"], none⟩]⟩,
    ⟨"b", [⟨["d"], none⟩, ⟨["a", "b"], none⟩]⟩]
  distinct := by decide
  unrepeated := by decide
  augmented := ⟨["$", "A", "d", "a"], ["$start", "S", "B", "b"],
    [⟨0, [.nonterminal 1], 0⟩, ⟨1, [.nonterminal 3, .nonterminal 2], 0⟩,
      ⟨2, [.terminal 1], 0⟩, ⟨3, [.terminal 2], 0⟩, ⟨3, [.terminal 3, .nonterminal 3], 1⟩]⟩
  augmented_eq := by decide +kernel

/-- The expression `A` and the terminal `b` change names, and the alternatives of the expression and
the definitions behind the first change places. -/
theorem Renamed.invariance_crossing :
    plainGrammar.Renamed .crossing crossedGrammar ∧
    plainGrammar.automaton.states.length = crossedGrammar.automaton.states.length ∧
    ∃ t' fuel, Table.ofGrammar crossedGrammar = .ok t' ∧
      t'.parseTokens fuel [⟨"a", "a", .zero⟩, ⟨"d", "d", .zero⟩, ⟨"A", "b", .zero⟩] =
        .tree (.node "S" 0 [.node "b" 1 [.leaf ⟨"a", "a", .zero⟩,
          .node "b" 0 [.leaf ⟨"d", "d", .zero⟩]], .node "B" 0 [.leaf ⟨"A", "b", .zero⟩]]) := by
  have hren : plainGrammar.Renamed .crossing crossedGrammar := by
    refine ⟨_, _, _, _, [⟨"b", [⟨["d"], none⟩, ⟨["a", "b"], none⟩]⟩, ⟨"B", [⟨["A"], none⟩]⟩], rfl,
      rfl, ⟨by decide, by decide⟩, ?_, .swap _ _ _⟩
    exact .cons ⟨by decide, by decide⟩ (.cons ⟨by decide, by decide⟩ .nil)
  obtain ⟨htable, hstates, -, hparse⟩ := invariance hren
  have ht : Table.ofGrammar plainGrammar = .ok plainTable := rfl
  have hplain : plainTable.parseTokens 20
      [⟨"a", "a", .zero⟩, ⟨"d", "d", .zero⟩, ⟨"b", "b", .zero⟩] =
        .tree (plainTree ⟨"a", "a", .zero⟩ ⟨"d", "d", .zero⟩ ⟨"b", "b", .zero⟩) := rfl
  obtain ⟨t', ht'⟩ := htable.1 ⟨plainTable, ht⟩
  refine ⟨hren, hstates, t', ?_⟩
  rcases hparse _ t' ht ht' [⟨"a", "a", .zero⟩, ⟨"d", "d", .zero⟩, ⟨"b", "b", .zero⟩] with
    ⟨tree, fuel, fuel', hf, hf'⟩ | hnone
  · obtain ⟨hw, hl⟩ := Parser.whole_of_parse ht hplain
    obtain ⟨hw', hl'⟩ := Parser.whole_of_parse ht hf
    cases Parser.whole_unique ht hw hw' (hl'.trans hl.symm)
    exact ⟨fuel', ht', hf'⟩
  · exact absurd hplain (hnone _ _).1

end Grammar

end CanonicalLR
