import Mathlib.Combinatorics.Enumerative.DoubleCounting
import Mathlib.Data.List.Forall2
import CanonicalLR.Proofs.Conflicts

/-! Grammars that are alike: their symbols correspond, and each rule of one grammar has a rule of the
other with corresponding sides. What is valid in one grammar is then valid in the other. A grammar has
a table if and only if nowhere two valid items clash, so grammars that are alike both have tables or
neither has; and their automata have the same number of states. -/
namespace CanonicalLR

/-- The first item is completed, and in front of its lookahead the second is completed too or expects
this very terminal. -/
def AugmentedGrammar.Clash (g : AugmentedGrammar) (i j : Item) : Prop :=
  g.remaining i = [] ∧ (g.next? j = some (.terminal i.lookahead) ∨
    g.remaining j = [] ∧ j.lookahead = i.lookahead ∧ j ≠ i)

namespace Grammar

open AugmentedGrammar

variable {α : Type} {g : Grammar α}

private theorem completed_of_remaining {γ : List Symbol} {i : Item} (hv : g.augmented.Valid γ i)
    (h : g.augmented.remaining i = []) : ∃ rule, g.augmented.Completed i rule := by
  obtain ⟨rule, hr, hm, -⟩ := g.fits_of_valid hv
  exact ⟨rule, hr, Nat.le_antisymm hm ((remaining_eq_nil_iff hr).1 h)⟩

private theorem not_clash_of_settled {γ : List Symbol} {q : Nat} {state : State}
    (hq : g.automaton.Reads γ q) (hstate : g.automaton.states[q]? = some state)
    (hs : g.augmented.Settled state) {i j : Item} (hi : g.augmented.Valid γ i)
    (hj : g.augmented.Valid γ j) : ¬ g.augmented.Clash i j := by
  obtain ⟨state', hstate', hholds, hedge⟩ := g.state_of_reads hq
  cases hstate.symm.trans hstate'
  rintro ⟨hrem, hor⟩
  obtain ⟨rule, hc⟩ := completed_of_remaining hi hrem
  rcases hor with hn | ⟨hremj, hl, hne⟩
  · obtain ⟨r, hr⟩ := (hedge _).2 ⟨j, hj, hn⟩
    have hsame := hs _ _ _ (hc.demands ((hholds i).2 hi)) (.shift hr)
    exact Table.completion_ne_shift _ _ _ hsame
  · obtain ⟨rule', hc'⟩ := completed_of_remaining hj hremj
    have hd := hc'.demands ((hholds j).2 hj)
    rw [hl] at hd
    have hsame := hs _ _ _ hd (hc.demands ((hholds i).2 hi))
    exact hne (hc.unique hc' (g.completion_inj hc'.1 hc.1 hsame) hl)

/-- Where nothing clashes with a completed item, nothing else is asked for on its lookahead. -/
private theorem eq_completion_of_demands {γ : List Symbol} {state : State}
    (hholds : g.augmented.Holds state.items γ) {q : Nat}
    (hq : g.automaton.states[q]? = some state) {i : Item} {rule : Production}
    (hc : g.augmented.Completed i rule)
    (hclear : ∀ j, g.augmented.Valid γ j → ¬ g.augmented.Clash i j) {act : Action}
    (hd : g.augmented.Demands state i.lookahead act) :
    act = Table.completion g.augmented i.rule rule := by
  have hrem : g.augmented.remaining i = [] := (remaining_eq_nil_iff hc.1).2 hc.2.ge
  have hone : ∀ j ∈ state.items, ∀ rule', g.augmented.Completed j rule' →
      j.lookahead = i.lookahead → j = i ∧ rule' = rule := by
    intro j hj rule' hcj hl
    have heq : j = i := by
      by_contra hne
      exact hclear j ((hholds j).1 hj)
        ⟨hrem, .inr ⟨(remaining_eq_nil_iff hcj.1).2 hcj.2.ge, hl, hne⟩⟩
    subst heq
    exact ⟨rfl, Option.some.inj (hcj.1.symm.trans hc.1)⟩
  cases hd with
  | shift he =>
    obtain ⟨j, hj, hn⟩ := (g.explored.expected _ hq).1 ⟨_, he⟩
    exact absurd ⟨hrem, .inl hn⟩ (hclear j ((hholds j).1 hj))
  | reduce hj hcj hl h0 =>
    obtain ⟨rfl, rfl⟩ := hone _ hj _ hcj hl
    rw [Table.completion, if_neg h0]
  | accept hj hcj hl h0 =>
    obtain ⟨rfl, rfl⟩ := hone _ hj _ hcj hl
    rw [Table.completion, if_pos h0]

/-- A grammar has a table if and only if nowhere two valid items clash. -/
theorem exists_table_iff (g : Grammar α) : (∃ t, Table.ofGrammar g = .ok t) ↔
    ∀ γ i j, g.augmented.Valid γ i → g.augmented.Valid γ j → ¬ g.augmented.Clash i j := by
  constructor
  · rintro ⟨t, ht⟩ γ i j hi hj
    obtain ⟨q, hq⟩ := g.exists_reads_of_valid hi
    obtain ⟨state, hstate, -, -⟩ := g.state_of_reads hq
    obtain ⟨row, hrow, -⟩ := Table.row?_of_state ht hstate
    exact not_clash_of_settled hq hstate (settled_of_compileRow hstate hrow) hi hj
  · intro hclear
    cases ht : Table.ofGrammar g with
    | ok t => exact ⟨t, rfl⟩
    | error conflict =>
      obtain ⟨state, i, rule, hq, hg, -⟩ := Table.genuine_of_ofGrammar ht
      obtain ⟨γ, hholds⟩ := g.exists_holds hq
      have hone : ∀ act, g.augmented.Demands state i.lookahead act →
          act = Table.completion g.augmented i.rule rule := by
        intro act
        apply eq_completion_of_demands hholds hq hg.completed
        exact fun j hj => hclear γ i j ((hholds i).1 hg.mem) hj
      exact absurd ((hone _ hg.existing).trans (hone _ hg.incoming).symm) hg.differ

end Grammar

namespace AugmentedGrammar

def SameRule (g h : AugmentedGrammar) (R : Symbol → Symbol → Prop) (r r' : Nat) : Prop :=
  ∃ rule rule', g.rules[r]? = some rule ∧ h.rules[r']? = some rule' ∧
    R (.nonterminal rule.left) (.nonterminal rule'.left) ∧ List.Forall₂ R rule.right rule'.right

/-- Two items of corresponding rules stand at the same place, with corresponding lookaheads. -/
def SameItem (g h : AugmentedGrammar) (R : Symbol → Symbol → Prop) (i i' : Item) : Prop :=
  SameRule g h R i.rule i'.rule ∧ i.marker = i'.marker ∧
    R (.terminal i.lookahead) (.terminal i'.lookahead)

/-- Under a correspondence of symbols that is one to one, each rule of either grammar has just one rule
of the other with corresponding sides. The end of the input and the rule on top of the start
expression correspond to themselves. -/
structure Alike (g h : AugmentedGrammar) (R : Symbol → Symbol → Prop) : Prop where
  unique {s s' r r' : Symbol} : R s s' → R r r' → (s = r ↔ s' = r')
  kind {s s' : Symbol} : R s s' → ((∃ t, s = .terminal t) ↔ ∃ t, s' = .terminal t)
  ends : R (.terminal Symbol.endId) (.terminal Symbol.endId)
  accept : SameRule g h R acceptRule acceptRule
  forth {r : Nat} {rule : Production} : g.rules[r]? = some rule → ∃ r', SameRule g h R r r'
  back {r' : Nat} {rule' : Production} : h.rules[r']? = some rule' → ∃ r, SameRule g h R r r'
  distinct {r r' p p' : Nat} : SameRule g h R r r' → SameRule g h R p p' → (r = p ↔ r' = p')

variable {g h : AugmentedGrammar} {R : Symbol → Symbol → Prop}

private theorem SameRule.symm {r r' : Nat} (hr : SameRule g h R r r') :
    SameRule h g (flip R) r' r := by
  obtain ⟨rule, rule', hg, hh, hleft, hright⟩ := hr
  exact ⟨rule', rule, hh, hg, hleft, hright.flip⟩

private theorem SameItem.symm {i i' : Item} (hi : SameItem g h R i i') :
    SameItem h g (flip R) i' i :=
  ⟨hi.1.symm, hi.2.1.symm, hi.2.2⟩

namespace Alike

/-- Likeness has no direction: what is shown for one grammar holds for both. -/
theorem symm (ha : Alike g h R) : Alike h g (flip R) where
  unique hs hr := (ha.unique hs hr).symm
  kind hs := (ha.kind hs).symm
  ends := ha.ends
  accept := ha.accept.symm
  forth hr := (ha.back hr).imp fun _ => SameRule.symm
  back hr := (ha.forth hr).imp fun _ => SameRule.symm
  distinct hr hp := (ha.distinct hr.symm hp.symm).symm

private theorem rightUnique (ha : Alike g h R) : Relator.RightUnique R :=
  fun _ _ _ hs hr => (ha.unique hs hr).1 rfl

private theorem item_unique (ha : Alike g h R) {i j i' j' : Item} (hi : SameItem g h R i i')
    (hj : SameItem g h R j j') : i = j ↔ i' = j' := by
  obtain ⟨hir, him, hil⟩ := hi
  obtain ⟨hjr, hjm, hjl⟩ := hj
  have hrule := ha.distinct hir hjr
  have hlook := ha.unique hil hjl
  cases i
  cases j
  cases i'
  cases j'
  simp only [Symbol.terminal.injEq] at hlook
  simp only at him hjm hrule
  simp only [Item.mk.injEq, hrule, him, hjm, hlook]

private theorem terminal (ha : Alike g h R) {t : Nat} {s' : Symbol} (hs : R (.terminal t) s') :
    ∃ t', s' = .terminal t' :=
  (ha.kind hs).1 ⟨t, rfl⟩

private theorem rule (ha : Alike g h R) {r : Nat} {rule : Production} (hr : g.rules[r]? = some rule)
    {s' : Symbol} (hs : R (.nonterminal rule.left) s') :
    ∃ r' rule', SameRule g h R r r' ∧ h.rules[r']? = some rule' ∧ s' = .nonterminal rule'.left ∧
      List.Forall₂ R rule.right rule'.right := by
  obtain ⟨r', hsame⟩ := ha.forth hr
  obtain ⟨_, rule', hr', hh, hleft, hright⟩ := id hsame
  cases hr.symm.trans hr'
  exact ⟨r', rule', hsame, hh, ha.rightUnique hs hleft, hright⟩

private theorem begins (ha : Alike g h R) {ss ss' : List Symbol} {o : Option Nat}
    (hb : g.Begins ss o) (hs : List.Forall₂ R ss ss') :
    ∃ o', Option.Rel (fun t t' => R (.terminal t) (.terminal t')) o o' ∧ h.Begins ss' o' := by
  induction hb generalizing ss' with
  | nil =>
    cases hs
    exact ⟨none, .none, .nil⟩
  | terminal =>
    cases hs with
    | cons hs _ =>
      obtain ⟨t', rfl⟩ := ha.terminal hs
      exact ⟨some t', .some hs, .terminal⟩
  | inside hr _ ih =>
    obtain ⟨r, hr⟩ := List.getElem?_of_mem hr
    cases hs with
    | cons hs _ =>
      obtain ⟨r', rule', -, hr', rfl, hright⟩ := ha.rule hr hs
      obtain ⟨_, ⟨ht⟩, hb⟩ := ih hright
      exact ⟨_, .some ht, .inside (List.mem_of_getElem? hr') hb⟩
  | past hr _ _ ih ihrest =>
    obtain ⟨r, hr⟩ := List.getElem?_of_mem hr
    cases hs with
    | cons hs hrest =>
      obtain ⟨r', rule', -, hr', rfl, hright⟩ := ha.rule hr hs
      obtain ⟨_, ⟨⟩, hempty⟩ := ih hright
      obtain ⟨o', ho, hb⟩ := ihrest hrest
      exact ⟨o', ho, .past (List.mem_of_getElem? hr') hempty hb⟩

end Alike

private theorem SameItem.remaining {i i' : Item} (hi : SameItem g h R i i') :
    List.Forall₂ R (g.remaining i) (h.remaining i') := by
  obtain ⟨⟨rule, rule', hg, hh, -, hright⟩, hm, -⟩ := hi
  simp only [AugmentedGrammar.remaining, hg, hh, hm]
  exact List.forall₂_drop _ hright

private theorem SameItem.remaining_eq_nil {i i' : Item} (hi : SameItem g h R i i')
    (hnil : g.remaining i = []) : h.remaining i' = [] := by
  have hrem := hi.remaining
  rw [hnil] at hrem
  exact List.forall₂_nil_left_iff.1 hrem

private theorem SameItem.next? {i i' : Item} (hi : SameItem g h R i i') {s : Symbol}
    (hs : g.next? i = some s) : ∃ s', R s s' ∧ h.next? i' = some s' := by
  have hrem := hi.remaining
  rw [remaining_of_next? hs] at hrem
  obtain ⟨s', rest', hs, -, heq⟩ := List.forall₂_cons_left_iff.1 hrem
  exact ⟨s', hs, by rw [AugmentedGrammar.next?, heq, List.head?_cons]⟩

private theorem SameItem.advance {i i' : Item} (hi : SameItem g h R i i') :
    SameItem g h R i.advance i'.advance :=
  ⟨hi.1, congrArg (· + 1) hi.2.1, hi.2.2⟩

namespace Alike

private theorem predicts (ha : Alike g h R) {i j i' : Item} (hp : g.Predicts i j)
    (hi : SameItem g h R i i') : ∃ j', SameItem g h R j j' ∧ h.Predicts i' j' := by
  obtain ⟨rest, rule, hr, hrem, hm, hb⟩ := hp
  have hsame := hi.remaining
  rw [hrem] at hsame
  obtain ⟨s', rest', hs, hrest, hrem'⟩ := List.forall₂_cons_left_iff.1 hsame
  obtain ⟨r', rule', hrule, hr', rfl, -⟩ := ha.rule hr hs
  obtain ⟨_, ⟨hl⟩, hb'⟩ := ha.begins hb (List.rel_append hrest (.cons hi.2.2 .nil))
  exact ⟨⟨r', 0, _⟩, ⟨hrule, hm, hl⟩, rest', rule', hr', hrem', rfl, hb'⟩

/-- Each item that is valid somewhere has one like it that is valid at the place like it. -/
theorem exists_valid (ha : Alike g h R) {γ : List Symbol} {i : Item} (hv : g.Valid γ i) :
    ∃ γ' i', List.Forall₂ R γ γ' ∧ SameItem g h R i i' ∧ h.Valid γ' i' := by
  induction hv with
  | start => exact ⟨[], _, .nil, ⟨ha.accept, rfl, ha.ends⟩, .start⟩
  | predict _ hp ih =>
    obtain ⟨γ', i', hγ, hi, hv⟩ := ih
    obtain ⟨j', hj, hp⟩ := ha.predicts hp hi
    exact ⟨γ', j', hγ, hj, .predict hv hp⟩
  | advance _ hs ih =>
    obtain ⟨γ', i', hγ, hi, hv⟩ := ih
    obtain ⟨s', hs, hn⟩ := hi.next? hs
    exact ⟨s' :: γ', i'.advance, .cons hs hγ, hi.advance, .advance hv hn⟩

private theorem valid_at (ha : Alike g h R) {γ γ' : List Symbol} (hγ : List.Forall₂ R γ γ')
    {i : Item} (hv : g.Valid γ i) : ∃ i', SameItem g h R i i' ∧ h.Valid γ' i' := by
  obtain ⟨δ, i', hδ, hi, hv⟩ := ha.exists_valid hv
  cases ha.rightUnique.forall₂ hγ hδ
  exact ⟨i', hi, hv⟩

private theorem valid_iff (ha : Alike g h R) {γ γ' : List Symbol} (hγ : List.Forall₂ R γ γ')
    {i i' : Item} (hi : SameItem g h R i i') : g.Valid γ i ↔ h.Valid γ' i' := by
  constructor
  · intro hv
    obtain ⟨j', hj, hv⟩ := ha.valid_at hγ hv
    rwa [(ha.item_unique hi hj).1 rfl]
  · intro hv
    obtain ⟨j, hj, hv⟩ := ha.symm.valid_at hγ.flip hv
    rwa [(ha.symm.item_unique hi.symm hj).1 rfl]

private theorem valid_mono (ha : Alike g h R) {γ δ γ' δ' : List Symbol} (hγ : List.Forall₂ R γ γ')
    (hδ : List.Forall₂ R δ δ') (hsub : ∀ i', h.Valid γ' i' → h.Valid δ' i') {i : Item}
    (hv : g.Valid γ i) : g.Valid δ i := by
  obtain ⟨i', hi, hv'⟩ := ha.valid_at hγ hv
  exact (ha.valid_iff hδ hi).2 (hsub i' hv')

private theorem clash (ha : Alike g h R) {i j i' j' : Item} (hi : SameItem g h R i i')
    (hj : SameItem g h R j j') (hc : g.Clash i j) : h.Clash i' j' := by
  obtain ⟨hrem, hor⟩ := hc
  refine ⟨hi.remaining_eq_nil hrem, hor.imp (fun hn => ?_) fun ⟨hremj, hl, hne⟩ => ?_⟩
  · obtain ⟨s', hs, hn⟩ := hj.next? hn
    rw [hn, ha.rightUnique hs hi.2.2]
  · refine ⟨hj.remaining_eq_nil hremj, ?_, fun heq => hne ((ha.item_unique hj hi).2 heq)⟩
    exact Symbol.terminal.inj ((ha.unique hj.2.2 hi.2.2).1 (congrArg _ hl))

end Alike

end AugmentedGrammar

namespace AugmentedGrammar.Alike

variable {α β : Type} {g : Grammar α} {h : Grammar β} {R : Symbol → Symbol → Prop}

/-- Grammars that are alike have tables together. -/
theorem exists_table (ha : Alike g.augmented h.augmented R)
    (ht : ∃ t, Table.ofGrammar g = .ok t) : ∃ t, Table.ofGrammar h = .ok t := by
  rw [Grammar.exists_table_iff] at ht ⊢
  intro γ' i' j' hi' hj' hc
  -- a clash of the second grammar goes back to one of the first, behind the same symbols
  obtain ⟨γ, i, hγ, hi, hvi⟩ := ha.symm.exists_valid hi'
  obtain ⟨j, hj, hvj⟩ := ha.symm.valid_at hγ hj'
  exact ht γ i j hvi hvj (ha.symm.clash hi hj hc)

/-- Behind corresponding symbols two states are twins. -/
def Twin (g : Grammar α) (h : Grammar β) (R : Symbol → Symbol → Prop) (q q' : Nat) : Prop :=
  ∃ γ γ', List.Forall₂ R γ γ' ∧ g.automaton.Reads γ q ∧ h.automaton.Reads γ' q'

private theorem exists_twin (ha : Alike g.augmented h.augmented R) {q : Nat}
    (hq : q < g.automaton.states.length) :
    ∃ q', q' < h.automaton.states.length ∧ Twin g h R q q' := by
  obtain ⟨γ, hγ⟩ := g.exists_reads_of_lt hq
  obtain ⟨i, hi⟩ := g.exists_valid_of_reads hγ
  obtain ⟨γ', i', hsame, -, hv⟩ := ha.exists_valid hi
  obtain ⟨q', hq'⟩ := h.exists_reads_of_valid hv
  obtain ⟨state, hstate, -, -⟩ := h.state_of_reads hq'
  exact ⟨q', (List.getElem?_eq_some_iff.1 hstate).1, γ, γ', hsame, hγ, hq'⟩

/-- A state is the twin of one state only: what is valid behind both is the same. -/
theorem twin_unique (ha : Alike g.augmented h.augmented R) {q r q' : Nat}
    (hq : Twin g h R q q') (hr : Twin g h R r q') : q = r := by
  obtain ⟨γ, γ', hγ, hqg, hqh⟩ := hq
  obtain ⟨δ, δ', hδ, hrg, hrh⟩ := hr
  obtain ⟨state', hstate', hγ', -⟩ := h.state_of_reads hqh
  obtain ⟨other', hother', hδ', -⟩ := h.state_of_reads hrh
  cases hstate'.symm.trans hother'
  obtain ⟨state, hstate, hone, -⟩ := g.state_of_reads hqg
  obtain ⟨other, hother, htwo, -⟩ := g.state_of_reads hrg
  -- both hold the items like those of their common twin, and no two states hold the same items
  have hitems : state.items = other.items := by
    apply SortedSet.ext_mem
    intro i
    rw [hone i, htwo i]
    constructor
    · exact ha.valid_mono hγ hδ fun i' hi' => (hδ' i').1 ((hγ' i').2 hi')
    · exact ha.valid_mono hδ hγ fun i' hi' => (hγ' i').1 ((hδ' i').2 hi')
  exact g.explored.index_unique hstate hother hitems

/-- A grammar has no more states than one that is like it: every state has a twin there, and different
states have different twins. -/
theorem length_states_le (ha : Alike g.augmented h.augmented R) :
    g.automaton.states.length ≤ h.automaton.states.length := by
  rw [← Finset.card_range g.automaton.states.length, ← Finset.card_range h.automaton.states.length]
  apply Finset.card_le_card_of_forall_subsingleton (Twin g h R)
  · intro q hq
    obtain ⟨q', hlt, htwin⟩ := ha.exists_twin (Finset.mem_range.1 hq)
    exact ⟨q', Finset.mem_range.2 hlt, htwin⟩
  · intro q' _ q hq r hr
    exact ha.twin_unique hq.2 hr.2

end AugmentedGrammar.Alike

end CanonicalLR
