import CanonicalLR.Proofs.Numbering
import CanonicalLR.Tree

/-! What symbols derive: derivation trees over the definitions, and what can come first in a string
derived from numbered symbols. -/
namespace CanonicalLR

namespace AugmentedGrammar

/-- What can come first in a string derived from symbols: a terminal, or nothing if the string is
empty. Symbols behind the first terminal need not derive anything. -/
inductive Begins (g : AugmentedGrammar) : List Symbol → Option Nat → Prop
  | nil : Begins g [] none
  | terminal {t : Nat} {rest : List Symbol} : Begins g (.terminal t :: rest) (some t)
  | inside {rule : Production} {t : Nat} {rest : List Symbol} : rule ∈ g.rules →
      Begins g rule.right (some t) → Begins g (.nonterminal rule.left :: rest) (some t)
  | past {rule : Production} {o : Option Nat} {rest : List Symbol} : rule ∈ g.rules →
      Begins g rule.right none → Begins g rest o → Begins g (.nonterminal rule.left :: rest) o

variable {g : AugmentedGrammar}

/-- A terminal that can come first still can if more stands behind. -/
theorem Begins.append_left {ss : List Symbol} {t : Nat} (h : g.Begins ss (some t))
    (rest : List Symbol) : g.Begins (ss ++ rest) (some t) := by
  generalize ho : some t = o at h
  induction h with
  | nil => cases ho
  | terminal => exact .terminal
  | inside hr hb => exact .inside hr hb
  | past hr hb _ _ ih => exact .past hr hb (ih ho)

/-- Behind symbols that can be empty the rest can come first. -/
theorem Begins.append {ss rest : List Symbol} {o : Option Nat} (h : g.Begins ss none)
    (hr : g.Begins rest o) : g.Begins (ss ++ rest) o := by
  generalize ho : none = e at h
  induction h with
  | nil => exact hr
  | terminal => cases ho
  | inside => cases ho
  | past hm hb _ _ ih => exact .past hm hb (ih ho)

/-- What comes first in two sequences comes from the first, or from the second if the first derives
the empty string. -/
theorem begins_append {ss rest : List Symbol} {o : Option Nat} :
    g.Begins (ss ++ rest) o ↔
      (∃ t, o = some t ∧ g.Begins ss (some t)) ∨ g.Begins ss none ∧ g.Begins rest o := by
  constructor
  · intro h
    induction ss with
    | nil => exact .inr ⟨.nil, h⟩
    | cons s ss ih =>
      cases h with
      | terminal => exact .inl ⟨_, rfl, .terminal⟩
      | inside hr hb => exact .inl ⟨_, rfl, .inside hr hb⟩
      | past hr hb h =>
        rcases ih h with ⟨t, rfl, ht⟩ | ⟨he, ho⟩
        · exact .inl ⟨t, rfl, .past hr hb ht⟩
        · exact .inr ⟨.past hr hb he, ho⟩
  · rintro (⟨t, rfl, h⟩ | ⟨he, h⟩)
    · exact h.append_left rest
    · exact he.append h

/-- What can come where symbols and then a terminal are due. -/
theorem begins_append_terminal {ss : List Symbol} {a b : Nat} :
    g.Begins (ss ++ [.terminal a]) (some b) ↔
      g.Begins ss (some b) ∨ g.Begins ss none ∧ b = a := by
  rw [begins_append]
  constructor
  · rintro (⟨t, ht, h⟩ | ⟨he, h⟩)
    · cases ht
      exact .inl h
    · cases h
      exact .inr ⟨he, rfl⟩
  · rintro (h | ⟨he, rfl⟩)
    · exact .inl ⟨b, rfl, h⟩
    · exact .inr ⟨he, .terminal⟩

end AugmentedGrammar

namespace Tree

@[simp] theorem name_leaf (token : Token) : (leaf token).name = token.name := rfl

/-- Derivation trees over the definitions of a grammar. The children of a node stand for the symbols
of its alternative in order; a leaf stands for a name that no definition defines. -/
inductive Derived {α : Type} (g : Grammar α) : Tree → Prop
  | leaf {token : Token} : g.definition? token.name = none → Derived g (leaf token)
  | node {name : String} {k : Nat} {children : List Tree} {d : Definition α} {a : Alternative α} :
      g.definition? name = some d → d.alternatives[k]? = some a →
      children.map Tree.name = a.symbols → (∀ c ∈ children, Derived g c) →
      Derived g (node name k children)

variable {α : Type} {g : Grammar α}

theorem leavesOfAll_append (ts us : List Tree) :
    leavesOfAll (ts ++ us) = leavesOfAll ts ++ leavesOfAll us := by
  induction ts with
  | nil => rfl
  | cons t ts ih => rw [List.cons_append, leavesOfAll, leavesOfAll, ih, List.append_assoc]

theorem leavesOfAll_singleton (t : Tree) : leavesOfAll [t] = t.leaves := by
  rw [leavesOfAll, leavesOfAll, List.append_nil]

/-- Folding the last trees of a stack into one node keeps the leaves. -/
theorem leavesOfAll_fold (name : String) (k len : Nat) (nodes : List Tree) :
    leavesOfAll (node name k (nodes.take len).reverse :: nodes.drop len).reverse =
      leavesOfAll nodes.reverse := by
  rw [List.reverse_cons, leavesOfAll_append, leavesOfAll_singleton, leaves,
    ← leavesOfAll_append, ← List.reverse_append, List.take_append_drop]

/-- A leaf can only stand for a terminal. -/
theorem Derived.terminal_of_leaf {token : Token} (h : (Tree.leaf token).Derived g) {s : Symbol}
    (hs : g.augmented.Proper s) (hn : token.name = g.augmented.symbolName s) :
    ∃ t, s = .terminal t := by
  cases h with
  | leaf h =>
    cases s with
    | terminal t => exact ⟨t, rfl⟩
    | nonterminal n =>
      obtain ⟨d, hd⟩ := g.definition?_nonterminal hs
      rw [hn, hd] at h
      cases h

/-- A node can only stand for a nonterminal, and is then an application of one of its rules. -/
theorem Derived.rule_of_node {name : String} {k : Nat} {children : List Tree}
    (h : (Tree.node name k children).Derived g) {s : Symbol} (hs : g.augmented.Proper s)
    (hn : name = g.augmented.symbolName s) :
    ∃ r rule, g.augmented.rules[r]? = some rule ∧ r ≠ AugmentedGrammar.acceptRule ∧
      s = .nonterminal rule.left ∧ rule.alternative = k ∧
      children.map Tree.name = rule.right.map g.augmented.symbolName ∧
      ∀ c ∈ children, c.Derived g := by
  cases h with
  | node hd ha hc hall =>
    obtain ⟨r, rule, hr, h0, hk, hl, hright⟩ := g.rule_of_definition hd ha
    refine ⟨r, rule, hr, h0, ?_, hk, hc.trans hright.symm, hall⟩
    have hp := (g.definition_of_rule hr h0).1
    exact g.symbolName_inj hs.known hp.known (hn.symm.trans hl.symm)

private def Fits (g : Grammar α) (ss : List Symbol) : List Token → Prop
  | [] => g.augmented.Begins ss none
  | token :: _ => ∃ t, g.augmented.Known (.terminal t) ∧
      token.name = g.augmented.symbolName (.terminal t) ∧ g.augmented.Begins ss (some t)

private theorem fits_forest {ts : List Tree} {ss : List Symbol}
    (hfit : ∀ t ∈ ts, ∀ s, g.augmented.Proper s → t.name = g.augmented.symbolName s →
      Fits g [s] t.leaves)
    (hs : ∀ s ∈ ss, g.augmented.Proper s)
    (hn : ts.map Tree.name = ss.map g.augmented.symbolName) : Fits g ss (leavesOfAll ts) := by
  induction ts generalizing ss with
  | nil =>
    cases ss with
    | nil => exact .nil
    | cons s ss => cases hn
  | cons t ts ih =>
    cases ss with
    | nil => cases hn
    | cons s ss =>
      obtain ⟨ht, hn⟩ := List.cons.inj hn
      have hone := hfit t List.mem_cons_self s (hs s List.mem_cons_self) ht
      have hrest := ih (fun u hu => hfit u (List.mem_cons_of_mem _ hu))
        (fun r hr => hs r (List.mem_cons_of_mem _ hr)) hn
      rw [leavesOfAll]
      cases hl : t.leaves with
      | nil =>
        rw [hl] at hone
        have hone : g.augmented.Begins [s] none := hone
        rw [List.nil_append]
        cases hm : leavesOfAll ts with
        | nil =>
          rw [hm] at hrest
          exact hone.append hrest
        | cons token more =>
          rw [hm] at hrest
          obtain ⟨x, hx, he, hb⟩ := hrest
          exact ⟨x, hx, he, hone.append hb⟩
      | cons token more =>
        rw [hl] at hone
        obtain ⟨x, hx, he, hb⟩ := hone
        exact ⟨x, hx, he, hb.append_left ss⟩

private theorem Derived.fits {t : Tree} (h : t.Derived g) {s : Symbol}
    (hs : g.augmented.Proper s) (hn : t.name = g.augmented.symbolName s) : Fits g [s] t.leaves := by
  induction h generalizing s with
  | @leaf token hd =>
    obtain ⟨x, rfl⟩ := (Derived.leaf hd).terminal_of_leaf hs hn
    exact ⟨x, hs.known, hn, .terminal⟩
  | @node name k children d a hd ha hc hall ih =>
    obtain ⟨r, rule, hr, -, rfl, -, hright, -⟩ := (Derived.node hd ha hc hall).rule_of_node hs hn
    have hm := List.mem_of_getElem? hr
    have hf := fits_forest (fun t ht s hs hn => ih t ht hs hn)
      (fun s hs => g.proper_of_mem_right hm hs) hright
    rw [leaves]
    cases hl : leavesOfAll children with
    | nil =>
      rw [hl] at hf
      exact .past hm hf .nil
    | cons token more =>
      rw [hl] at hf
      obtain ⟨x, hx, he, hb⟩ := hf
      exact ⟨x, hx, he, .inside hm hb⟩

/-- The name under which the first of some tokens is looked up, the end of the input if there is
none. -/
def firstName : List Token → String
  | [] => endName
  | token :: _ => token.name

/-- The name at the cursor, read off the names of all tokens. -/
theorem firstName_drop (ts : List Token) (c : Nat) :
    firstName (ts.drop c) = (ts.map (·.name))[c]?.getD endName := by
  rw [List.getElem?_map, ← List.head?_drop]
  cases ts.drop c <;> rfl

/-- If trees stand for symbols, and more tokens for a terminal behind these, then the first of all
their tokens can come first there. -/
theorem begins_of_forest {ts : List Tree} {ss : List Symbol} {rest : List Token} {a : Nat}
    (hd : ∀ t ∈ ts, t.Derived g) (hs : ∀ s ∈ ss, g.augmented.Proper s)
    (hn : ts.map Tree.name = ss.map g.augmented.symbolName)
    (ha : g.augmented.Known (.terminal a))
    (hr : firstName rest = g.augmented.symbolName (.terminal a)) :
    ∃ b, g.augmented.Known (.terminal b) ∧
      firstName (leavesOfAll ts ++ rest) = g.augmented.symbolName (.terminal b) ∧
      g.augmented.Begins (ss ++ [.terminal a]) (some b) := by
  have hf := fits_forest (fun t ht s hs hn => (hd t ht).fits hs hn) hs hn
  cases hl : leavesOfAll ts with
  | nil =>
    rw [hl] at hf
    exact ⟨a, ha, hr, AugmentedGrammar.begins_append_terminal.2 (.inr ⟨hf, rfl⟩)⟩
  | cons token more =>
    rw [hl] at hf
    obtain ⟨x, hx, he, hb⟩ := hf
    exact ⟨x, hx, he, hb.append_left _⟩

/-- A derivation tree of the start expression. -/
def Whole (g : Grammar α) (tree : Tree) : Prop :=
  tree.Derived g ∧ ∃ k children, tree = .node g.start k children

mutual

/-- The tree over the names of its tokens, without their contents and places. -/
def bare : Tree → Tree
  | leaf token => leaf (.synthetic token.name .zero)
  | node expression k children => node expression k (bareAll children)

def bareAll : List Tree → List Tree
  | [] => []
  | t :: ts => t.bare :: bareAll ts

end

private theorem bareAll_eq_map (ts : List Tree) : bareAll ts = ts.map bare := by
  induction ts with
  | nil => rfl
  | cons t ts ih => rw [bareAll, ih, List.map_cons]

@[simp] theorem name_bare (t : Tree) : t.bare.name = t.name := by
  cases t <;> rfl

mutual

/-- Taking contents and places away commutes with taking the leaves. -/
theorem leaves_bare : (t : Tree) →
    t.bare.leaves = t.leaves.map fun token => .synthetic token.name .zero
  | leaf _ => rfl
  | node _ _ children => leavesOfAll_bareAll children

private theorem leavesOfAll_bareAll : (ts : List Tree) →
    leavesOfAll (bareAll ts) = (leavesOfAll ts).map fun token => .synthetic token.name .zero
  | [] => rfl
  | t :: ts => by
    rw [bareAll, leavesOfAll, leavesOfAll, leaves_bare t, leavesOfAll_bareAll ts, List.map_append]

end

private theorem Derived.bare {t : Tree} (h : t.Derived g) : t.bare.Derived g := by
  induction h with
  | leaf hd => exact .leaf hd
  | node hd ha hc _ ih =>
    refine .node hd ha ?_ fun c hm => ?_
    · rw [bareAll_eq_map, List.map_map, ← hc]
      exact List.map_congr_left fun t _ => name_bare t
    · rw [bareAll_eq_map] at hm
      obtain ⟨t, ht, rfl⟩ := List.mem_map.1 hm
      exact ih t ht

/-- Whether a tree is a derivation depends on the names of its tokens only. -/
theorem Whole.bare {t : Tree} (h : t.Whole g) : t.bare.Whole g := by
  obtain ⟨hd, k, children, rfl⟩ := h
  exact ⟨hd.bare, k, _, rfl⟩

end Tree

namespace Grammar

variable {α : Type} {g : Grammar α}

/-- The names are those of the leaves of a derivation tree of the start expression. -/
def Sentence (g : Grammar α) (names : List String) : Prop :=
  ∃ tree : Tree, tree.Whole g ∧ tree.leaves.map (·.name) = names

/-- The symbols that derivations of the start expression come to, by name. -/
inductive Reachable (g : Grammar α) : String → Prop
  | start : Reachable g g.start
  | symbol {name s : String} {d : Definition α} {a : Alternative α} : Reachable g name →
      g.definition? name = some d → a ∈ d.alternatives → s ∈ a.symbols → Reachable g s

/-- Every expression that is reachable from the start derives some sequence of tokens. -/
def Fertile (g : Grammar α) : Prop :=
  ∀ d ∈ g.definitions, g.Reachable d.name → ∃ tree : Tree, tree.Derived g ∧ tree.name = d.name

def Used (g : Grammar α) (s : Symbol) : Prop :=
  g.augmented.Proper s ∧ g.Reachable (g.augmented.symbolName s)

private theorem alternative_of_rule {rule : Production} (hr : rule ∈ g.augmented.rules)
    (hp : g.augmented.Proper (.nonterminal rule.left)) :
    ∃ d a, g.definition? (g.augmented.symbolName (.nonterminal rule.left)) = some d ∧
      d.alternatives[rule.alternative]? = some a ∧
      rule.right.map g.augmented.symbolName = a.symbols := by
  obtain ⟨r, hi⟩ := List.getElem?_of_mem hr
  have h0 : r ≠ AugmentedGrammar.acceptRule := by
    rintro rfl
    rw [g.rules_zero] at hi
    cases hi
    exact absurd hp.1 (by simp [Symbol.startId])
  exact (g.definition_of_rule hi h0).2

/-- What stands in a rule that is used is used. -/
theorem used_of_mem_right {rule : Production} (hr : rule ∈ g.augmented.rules)
    (hu : g.Used (.nonterminal rule.left)) {s : Symbol} (hs : s ∈ rule.right) : g.Used s := by
  obtain ⟨d, a, hd, ha, hright⟩ := alternative_of_rule hr hu.1
  have hname : g.augmented.symbolName s ∈ a.symbols := hright ▸ List.mem_map_of_mem hs
  exact ⟨g.proper_of_mem_right hr hs, .symbol hu.2 hd (List.mem_of_getElem? ha) hname⟩

/-- Trees for the right side of a rule make a tree for its left side. -/
theorem derived_of_rule {rule : Production} (hr : rule ∈ g.augmented.rules)
    (hp : g.augmented.Proper (.nonterminal rule.left)) {cs : List Tree}
    (hc : ∀ c ∈ cs, c.Derived g) (hn : cs.map Tree.name = rule.right.map g.augmented.symbolName) :
    (Tree.node (g.augmented.symbolName (.nonterminal rule.left)) rule.alternative cs).Derived g := by
  obtain ⟨d, a, hd, ha, hright⟩ := alternative_of_rule hr hp
  exact .node hd ha (hn.trans hright) hc

private theorem Fertile.exists_tree (hg : g.Fertile) {s : Symbol} (hs : g.Used s) :
    ∃ tree : Tree, tree.Derived g ∧ tree.name = g.augmented.symbolName s := by
  cases s with
  | terminal t =>
    exact ⟨.leaf (.synthetic _ .zero), .leaf (g.definition?_terminal hs.1.known), rfl⟩
  | nonterminal n =>
    obtain ⟨d, hd⟩ := g.definition?_nonterminal hs.1
    obtain ⟨hmem, hname⟩ := g.definition?_eq_some_iff.1 hd
    obtain ⟨tree, ht, hn⟩ := hg d hmem (hname ▸ hs.2)
    exact ⟨tree, ht, hn.trans hname⟩

/-- If no expression is barren, there are trees for all symbols that are used. -/
theorem Fertile.exists_forest (hg : g.Fertile) {ss : List Symbol} (hs : ∀ s ∈ ss, g.Used s) :
    ∃ ts : List Tree, (∀ t ∈ ts, t.Derived g) ∧
      ts.map Tree.name = ss.map g.augmented.symbolName := by
  induction ss with
  | nil => exact ⟨[], by simp, rfl⟩
  | cons s ss ih =>
    obtain ⟨tree, ht, hn⟩ := hg.exists_tree (hs s List.mem_cons_self)
    obtain ⟨ts, hts, hns⟩ := ih fun r hr => hs r (List.mem_cons_of_mem _ hr)
    exact ⟨tree :: ts, by simpa using ⟨ht, hts⟩, by rw [List.map_cons, List.map_cons, hn, hns]⟩

private theorem Fertile.exists_forest_of_begins (hg : g.Fertile) {ss : List Symbol} {o : Option Nat}
    (h : g.augmented.Begins ss o) (hs : ∀ s ∈ ss, g.Used s) :
    ∃ ts : List Tree, (∀ t ∈ ts, t.Derived g) ∧
      ts.map Tree.name = ss.map g.augmented.symbolName ∧
      ∀ rest, Tree.firstName (Tree.leavesOfAll ts ++ rest) =
        o.elim (Tree.firstName rest) fun t => g.augmented.symbolName (.terminal t) := by
  induction h with
  | nil => exact ⟨[], by simp, rfl, fun _ => rfl⟩
  | @terminal t rest =>
    obtain ⟨ts, ht, hn⟩ := hg.exists_forest fun s hx => hs s (List.mem_cons_of_mem _ hx)
    refine ⟨.leaf (.synthetic (g.augmented.symbolName (.terminal t)) .zero) :: ts, ?_, ?_,
      fun _ => rfl⟩
    · simpa using ⟨.leaf (g.definition?_terminal (hs _ List.mem_cons_self).1.known), ht⟩
    · rw [List.map_cons, List.map_cons, hn]
      rfl
  | @inside rule t rest hr _ ih =>
    obtain ⟨cs, hc, hcn, hfirst⟩ := ih fun s hm => used_of_mem_right hr (hs _ List.mem_cons_self) hm
    obtain ⟨ts, ht, hn⟩ := hg.exists_forest fun s hx => hs s (List.mem_cons_of_mem _ hx)
    have hnode := derived_of_rule hr (hs _ List.mem_cons_self).1 hc hcn
    refine ⟨_ :: ts, by simpa using ⟨hnode, ht⟩, ?_, fun more => ?_⟩
    · rw [List.map_cons, List.map_cons, hn]
      rfl
    · rw [Tree.leavesOfAll, Tree.leaves, List.append_assoc, hfirst]
      rfl
  | @past rule o rest hr _ _ ih ihrest =>
    obtain ⟨cs, hc, hcn, hfirst⟩ := ih fun s hm => used_of_mem_right hr (hs _ List.mem_cons_self) hm
    obtain ⟨ts, ht, hn, hrest⟩ := ihrest fun s hx => hs s (List.mem_cons_of_mem _ hx)
    have hnode := derived_of_rule hr (hs _ List.mem_cons_self).1 hc hcn
    refine ⟨_ :: ts, by simpa using ⟨hnode, ht⟩, ?_, fun more => ?_⟩
    · rw [List.map_cons, List.map_cons, hn]
      rfl
    · rw [Tree.leavesOfAll, Tree.leaves, List.append_assoc, hfirst, Option.elim_none, hrest]

/-- What can come where symbols and then a terminal are due comes first in a forest of the symbols,
or behind one. -/
theorem Fertile.exists_forest_of_due (hg : g.Fertile) {ss : List Symbol} {a b : Nat}
    (h : g.augmented.Begins (ss ++ [.terminal a]) (some b))
    (hs : ∀ s ∈ ss, g.Used s) :
    ∃ ts : List Tree, (∀ t ∈ ts, t.Derived g) ∧
      ts.map Tree.name = ss.map g.augmented.symbolName ∧
      ∀ rest, Tree.firstName rest = g.augmented.symbolName (.terminal a) →
        Tree.firstName (Tree.leavesOfAll ts ++ rest) = g.augmented.symbolName (.terminal b) := by
  rcases AugmentedGrammar.begins_append_terminal.1 h with hb | ⟨he, rfl⟩
  · obtain ⟨ts, ht, hn, hfirst⟩ := hg.exists_forest_of_begins hb hs
    exact ⟨ts, ht, hn, fun rest _ => hfirst rest⟩
  · obtain ⟨ts, ht, hn, hfirst⟩ := hg.exists_forest_of_begins he hs
    exact ⟨ts, ht, hn, fun rest hr => (hfirst rest).trans hr⟩

end Grammar

end CanonicalLR
