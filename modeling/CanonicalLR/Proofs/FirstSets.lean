import Mathlib.Data.Finset.Option
import Mathlib.Data.Finset.Prod
import CanonicalLR.First
import CanonicalLR.Proofs.Derivation

/-! First sets are exact: the rounds come to rest, and then each set holds what can come first in a
string derived from its nonterminal, and nothing else. -/
namespace CanonicalLR

namespace First

/-- The set holds a terminal, or the empty string. -/
def Has (f : First) : Option Nat → Prop
  | some t => t ∈ f.terminals
  | .none => f.nullable = true

private theorem has_none (o : Option Nat) : ¬ First.none.Has o := by
  cases o with
  | none => exact Bool.false_ne_true
  | some t => exact List.not_mem_nil

private theorem has_union {f h : First} {o : Option Nat} :
    (f.union h).Has o ↔ f.Has o ∨ h.Has o := by
  cases o with
  | none => exact Bool.or_eq_true_iff
  | some t => exact SortedSet.mem_union

private theorem ext_has {f h : First} (hf : ∀ o, f.Has o ↔ h.Has o) : f = h := by
  obtain ⟨ft, fn⟩ := f
  obtain ⟨ht, hn⟩ := h
  have ht : ft = ht := SortedSet.ext_mem fun t => hf (some t)
  have hn : fn = hn := Bool.eq_iff_iff.2 (hf .none)
  rw [ht, hn]

end First

namespace FirstSets

/-- The set of a nonterminal holds a terminal, or the empty string. -/
def Tells (sets : List First) (n : Nat) (o : Option Nat) : Prop :=
  ∃ f, sets[n]? = some f ∧ f.Has o

variable {g : AugmentedGrammar} {sets : List First}

private theorem ext_tells {more : List First} (hl : sets.length = more.length)
    (h : ∀ n o, Tells sets n o ↔ Tells more n o) : sets = more := by
  refine List.ext_getElem hl fun n hn hm => First.ext_has fun o => ?_
  have ht := h n o
  simpa [Tells, hn, hm] using ht

private theorem has_ofSymbols_terminal {t : Nat} {rest : List Symbol} {o : Option Nat} :
    (First.ofSymbols sets (.terminal t :: rest)).Has o ↔ o = some t := by
  cases o with
  | none => simp [First.ofSymbols, First.Has]
  | some u => simp [First.ofSymbols, First.Has]

private theorem has_ofSymbols_nonterminal {n : Nat} {rest : List Symbol} {o : Option Nat} :
    (First.ofSymbols sets (.nonterminal n :: rest)).Has o ↔
      (∃ t, o = some t ∧ Tells sets n (some t)) ∨
        Tells sets n none ∧ (First.ofSymbols sets rest).Has o := by
  rw [First.ofSymbols]
  cases hf : sets[n]? with
  | none => simp [Tells, hf, First.has_none]
  | some f =>
    cases hb : f.nullable with
    | false => cases o <;> simp [Tells, hf, First.Has, hb]
    | true => cases o <;> simp [Tells, hf, First.Has, hb]

private def Sound (g : AugmentedGrammar) (sets : List First) : Prop :=
  ∀ n o, Tells sets n o → g.Begins [.nonterminal n] o

private theorem Sound.begins (h : Sound g sets) {ss : List Symbol} {o : Option Nat}
    (ho : (First.ofSymbols sets ss).Has o) : g.Begins ss o := by
  induction ss with
  | nil =>
    cases o with
    | none => exact .nil
    | some t => exact absurd ho List.not_mem_nil
  | cons s ss ih =>
    cases s with
    | terminal t =>
      rw [has_ofSymbols_terminal.1 ho]
      exact .terminal
    | nonterminal n =>
      rcases has_ofSymbols_nonterminal.1 ho with ⟨t, rfl, ht⟩ | ⟨he, ho⟩
      · exact (h n _ ht).append_left ss
      · exact (h n _ he).append (ih ho)

private def Complete (g : AugmentedGrammar) (sets : List First) : Prop :=
  ∀ rule ∈ g.rules, ∀ o, (First.ofSymbols sets rule.right).Has o → Tells sets rule.left o

private theorem Complete.has (h : Complete g sets) {ss : List Symbol} {o : Option Nat}
    (ho : g.Begins ss o) : (First.ofSymbols sets ss).Has o := by
  induction ho with
  | nil => exact rfl
  | terminal => exact has_ofSymbols_terminal.2 rfl
  | inside hr _ ih => exact has_ofSymbols_nonterminal.2 (.inl ⟨_, rfl, h _ hr _ ih⟩)
  | past hr _ _ ih ihrest => exact has_ofSymbols_nonterminal.2 (.inr ⟨h _ hr _ ih, ihrest⟩)

private theorem tells_addRule {rule : Production} {n : Nat} {o : Option Nat} :
    Tells (addRule sets rule) n o ↔ Tells sets n o ∨
      rule.left = n ∧ n < sets.length ∧ (First.ofSymbols sets rule.right).Has o := by
  rw [Tells, Tells, addRule, List.getElem?_modify]
  by_cases hn : rule.left = n
  · cases hf : sets[n]? with
    | none =>
      have hlen := List.getElem?_eq_none_iff.1 hf
      simp only [hn, if_true, Option.map_eq_map, Option.map_none, reduceCtorEq, false_and,
        exists_false, false_or, true_and, false_iff]
      omega
    | some f =>
      obtain ⟨hlen, -⟩ := List.getElem?_eq_some_iff.1 hf
      simp [hn, hlen, First.has_union]
  · simp [hn]

private theorem length_addRule (rule : Production) : (addRule sets rule).length = sets.length :=
  List.length_modify _ _ _

private theorem length_foldl (rules : List Production) :
    (rules.foldl addRule sets).length = sets.length := by
  induction rules generalizing sets with
  | nil => rfl
  | cons rule rules ih => rw [List.foldl_cons, ih, length_addRule]

private theorem tells_foldl {rules : List Production} {n : Nat} {o : Option Nat}
    (h : Tells sets n o) : Tells (rules.foldl addRule sets) n o := by
  induction rules generalizing sets with
  | nil => exact h
  | cons rule rules ih => exact ih (tells_addRule.2 (.inl h))

private theorem sound_foldl {rules : List Production} (hr : ∀ rule ∈ rules, rule ∈ g.rules)
    (h : Sound g sets) : Sound g (rules.foldl addRule sets) := by
  induction rules generalizing sets with
  | nil => exact h
  | cons rule rules ih =>
    refine ih (fun r hm => hr r (List.mem_cons_of_mem _ hm)) fun n o ht => ?_
    rcases tells_addRule.1 ht with ht | ⟨rfl, -, ho⟩
    · exact h n o ht
    · have hm := hr rule List.mem_cons_self
      have hb := h.begins ho
      cases o with
      | none => exact .past hm hb .nil
      | some t => exact .inside hm hb

private theorem sound_round (h : Sound g sets) : Sound g (round g sets) :=
  sound_foldl (fun _ hr => hr) h

private theorem length_round : (round g sets).length = sets.length :=
  length_foldl g.rules

/-- A round that changes nothing changed nothing at any of its rules. -/
private theorem addRule_eq_of_foldl_eq {rules : List Production}
    (h : rules.foldl addRule sets = sets) : ∀ rule ∈ rules, addRule sets rule = sets := by
  induction rules with
  | nil => simp
  | cons rule rules ih =>
    have hone : addRule sets rule = sets := by
      refine ext_tells (length_addRule rule) fun n o => ⟨fun ht => ?_, fun ht => ?_⟩
      · rw [← h, List.foldl_cons]
        exact tells_foldl ht
      · exact tells_addRule.2 (.inl ht)
    rw [List.foldl_cons, hone] at h
    intro r hr
    rcases List.mem_cons.1 hr with rfl | hr
    · exact hone
    · exact ih h r hr

private theorem complete_of_round_eq (hk : ∀ rule ∈ g.rules, rule.left < sets.length)
    (h : round g sets = sets) : Complete g sets := by
  intro rule hr o ho
  rw [← addRule_eq_of_foldl_eq h rule hr]
  exact tells_addRule.2 (.inr ⟨rfl, hk rule hr, ho⟩)

private def room (g : AugmentedGrammar) : Finset (Nat × Option Nat) :=
  Finset.range g.nonterminals.length ×ˢ Finset.insertNone (Finset.range g.terminals.length)

private theorem card_room :
    (room g).card = g.nonterminals.length * (g.terminals.length + 1) := by
  rw [room, Finset.card_product, Finset.card_insertNone, Finset.card_range, Finset.card_range]

open Classical in
private noncomputable def held (g : AugmentedGrammar) (sets : List First) :
    Finset (Nat × Option Nat) :=
  (room g).filter fun x => Tells sets x.1 x.2

/-- What symbols with numbers can begin with has a number. -/
theorem begins_known (hg : g.Closed) {ss : List Symbol} {o : Option Nat}
    (h : g.Begins ss o) (hs : ∀ s ∈ ss, g.Known s) {t : Nat} (ht : o = some t) :
    t < g.terminals.length := by
  induction h with
  | nil => cases ht
  | terminal =>
    cases ht
    exact hs _ List.mem_cons_self
  | inside hr _ ih => exact ih (hg _ hr).2 ht
  | past _ _ _ _ ih => exact ih (fun s h => hs s (List.mem_cons_of_mem _ h)) ht

open Classical in
private theorem mem_held (hg : g.Closed) (hs : Sound g sets)
    (hl : sets.length = g.nonterminals.length) {x : Nat × Option Nat} :
    x ∈ held g sets ↔ Tells sets x.1 x.2 := by
  rw [held, Finset.mem_filter, and_iff_right_iff_imp]
  intro h
  obtain ⟨f, hf, -⟩ := id h
  have hn : x.1 < g.nonterminals.length := hl ▸ (List.getElem?_eq_some_iff.1 hf).1
  refine Finset.mem_product.2 ⟨Finset.mem_range.2 hn, Finset.mem_insertNone.2 fun t ht => ?_⟩
  have hk : ∀ s ∈ [Symbol.nonterminal x.1], g.Known s := by
    intro s hs
    rw [List.mem_singleton.1 hs]
    exact hn
  exact Finset.mem_range.2 (begins_known hg (hs x.1 x.2 h) hk ht)

private theorem card_held_lt (hg : g.Closed) (hs : Sound g sets)
    (hl : sets.length = g.nonterminals.length) (hne : round g sets ≠ sets) :
    (held g sets).card < (held g (round g sets)).card := by
  have hs' := sound_round hs
  have hl' : (round g sets).length = g.nonterminals.length := length_round.trans hl
  refine Finset.card_lt_card (Finset.ssubset_iff_subset_ne.2 ⟨fun x hx => ?_, fun he => hne ?_⟩)
  · rw [mem_held hg hs hl] at hx
    rw [mem_held hg hs' hl']
    exact tells_foldl hx
  · refine ext_tells length_round fun n o => ?_
    rw [← mem_held hg hs' hl' (x := (n, o)), ← mem_held hg hs hl (x := (n, o)), he]

open Classical in
private theorem card_held_le : (held g sets).card ≤ (room g).card :=
  Finset.card_le_card (Finset.filter_subset _ _)

/-- After `n` rounds, and not before, a round adds nothing. -/
def RestsAfter (g : AugmentedGrammar) (sets : List First) (n : Nat) : Prop :=
  round g ((round g)^[n] sets) = (round g)^[n] sets ∧
    ∀ m < n, round g ((round g)^[m] sets) ≠ (round g)^[m] sets

private theorem saturate_rests (hg : g.Closed) {fuel : Nat} (rounds : Nat) (hs : Sound g sets)
    (hl : sets.length = g.nonterminals.length)
    (hf : (room g).card < (held g sets).card + fuel) :
    ∃ n, RestsAfter g sets n ∧
      saturate g fuel rounds sets = ⟨(round g)^[n] sets, rounds + n + 1⟩ := by
  induction fuel generalizing rounds sets with
  | zero =>
    have hle : (held g sets).card ≤ (room g).card := card_held_le
    omega
  | succ fuel ih =>
    rw [saturate]
    by_cases he : round g sets = sets
    · rw [if_pos he]
      exact ⟨0, ⟨he, fun m hm => absurd hm (Nat.not_lt_zero m)⟩, rfl⟩
    · rw [if_neg he]
      have hlt := card_held_lt hg hs hl he
      obtain ⟨n, ⟨hrest, hbefore⟩, hn⟩ := ih (rounds + 1) (sound_round hs)
        (length_round.trans hl) (by omega)
      refine ⟨n + 1, ⟨hrest, fun m hm => ?_⟩, ?_⟩
      · cases m with
        | zero => exact he
        | succ m => exact hbefore m (Nat.lt_of_succ_lt_succ hm)
      · rw [hn, Function.iterate_succ_apply, Nat.add_right_comm rounds 1 n, Nat.add_assoc rounds n 1]

private theorem sound_iterate (hs : Sound g sets) (hl : sets.length = g.nonterminals.length)
    (n : Nat) :
    Sound g ((round g)^[n] sets) ∧ ((round g)^[n] sets).length = g.nonterminals.length := by
  induction n with
  | zero => exact ⟨hs, hl⟩
  | succ n ih =>
    rw [Function.iterate_succ_apply']
    exact ⟨sound_round ih.1, length_round.trans ih.2⟩

def untold (g : AugmentedGrammar) : List First :=
  g.nonterminals.map fun _ => First.none

private theorem sound_untold : Sound g (untold g) := by
  rintro n o ⟨f, hf, ho⟩
  rw [untold, List.getElem?_map, Option.map_eq_some_iff] at hf
  obtain ⟨_, _, rfl⟩ := hf
  exact absurd ho (First.has_none o)

/-- The first sets of a grammar are those with which the rounds come to rest. -/
theorem ofGrammar_rests (hg : g.Closed) : ∃ n, RestsAfter g (untold g) n ∧
    ofGrammar g = ⟨(round g)^[n] (untold g), n + 1⟩ := by
  have hf : (room g).card < (held g (untold g)).card +
      (g.nonterminals.length * (g.terminals.length + 1) + 1) := by
    rw [card_room]
    omega
  obtain ⟨n, hrest, hn⟩ := saturate_rests hg 0 sound_untold (List.length_map _) hf
  refine ⟨n, hrest, ?_⟩
  rw [Nat.zero_add] at hn
  exact hn

private theorem ofGrammar_spec (hg : g.Closed) :
    Sound g (ofGrammar g).sets ∧ Complete g (ofGrammar g).sets := by
  obtain ⟨n, hrest, hn⟩ := ofGrammar_rests hg
  obtain ⟨hs, hl⟩ := sound_iterate sound_untold (List.length_map _) n
  rw [hn]
  exact ⟨hs, complete_of_round_eq (fun rule hr => hl ▸ (hg rule hr).1) hrest.1⟩

/-- The first set of a sequence of symbols holds exactly what can come first in a string that the
symbols derive. -/
theorem has_ofSymbols_iff (hg : g.Closed) {ss : List Symbol} {o : Option Nat} :
    ((ofGrammar g).ofSymbols ss).Has o ↔ g.Begins ss o :=
  ⟨(ofGrammar_spec hg).1.begins, (ofGrammar_spec hg).2.has⟩

/-- The lookaheads behind some symbols are the terminals that can come first where these symbols and
then the given terminal are due. -/
theorem mem_lookaheads_iff (hg : g.Closed) {ss : List Symbol} {a b : Nat} :
    b ∈ (ofGrammar g).lookaheads ss a ↔ g.Begins (ss ++ [.terminal a]) (some b) := by
  have ht : b ∈ ((ofGrammar g).ofSymbols ss).terminals ↔ g.Begins ss (some b) :=
    has_ofSymbols_iff hg (o := some b)
  have hn : ((ofGrammar g).ofSymbols ss).nullable = true ↔ g.Begins ss none :=
    has_ofSymbols_iff hg (o := none)
  rw [AugmentedGrammar.begins_append_terminal, lookaheads, ← ht, ← hn]
  split
  · rename_i h
    rw [SortedSet.mem_insert, h]
    simp [or_comm]
  · rename_i h
    simp [h]

end FirstSets

end CanonicalLR
