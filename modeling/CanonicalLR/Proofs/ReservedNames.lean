import CanonicalLR.Proofs.EarlyErrors

/-! Tokens under reserved names, or under the names of expressions. A token named as the end of the
input takes its place before the table, but not in the checks after the loop: no such token is ever
part of what is accepted. -/
namespace CanonicalLR

/-- The name is neither reserved nor that of an expression. -/
def Grammar.Ordinary {α : Type} (g : Grammar α) (name : String) : Prop :=
  name ≠ endName ∧ name ≠ startName ∧ g.definition? name = none

namespace Tree

private theorem mem_leavesOfAll {token : Token} {ts : List Tree} :
    token ∈ leavesOfAll ts ↔ ∃ t ∈ ts, token ∈ t.leaves := by
  induction ts with
  | nil => simp [leavesOfAll]
  | cons t ts ih => simp [leavesOfAll, ih]

variable {α : Type} {g : Grammar α} {tree : Tree}

/-- What a derivation comes to is referred to by an alternative, so that its name was checked. -/
private theorem Derived.ordinary (h : tree.Derived g) (hn : checkName tree.name = .ok ()) :
    ∀ token ∈ tree.leaves, g.Ordinary token.name := by
  induction h with
  | @leaf token hd =>
    intro other hmem
    obtain rfl := List.mem_singleton.1 hmem
    exact ⟨(AugmentedGrammar.checkName_ne hn).1, (AugmentedGrammar.checkName_ne hn).2, hd⟩
  | @node name k children d a hd ha hc _ ih =>
    intro token hmem
    obtain ⟨child, hchild, hleaf⟩ := mem_leavesOfAll.1 hmem
    obtain ⟨hdefined, -⟩ := g.definition?_eq_some_iff.1 hd
    have hsymbol : child.name ∈ a.symbols := hc ▸ List.mem_map_of_mem hchild
    have hcheck := (g.checkName_of_mem hdefined).2 a (List.mem_of_getElem? ha) _ hsymbol
    exact ih child hchild hcheck token hleaf

private theorem Whole.ordinary (h : tree.Whole g) :
    ∀ token ∈ tree.leaves, g.Ordinary token.name := by
  obtain ⟨hd, k, children, rfl⟩ := h
  exact hd.ordinary (g.checkName_symbolName g.startSymbol_proper)

end Tree

/-- The names of a sentence are ordinary. -/
theorem Grammar.Sentence.ordinary {α : Type} {g : Grammar α} {names : List String}
    (h : g.Sentence names) : ∀ name ∈ names, g.Ordinary name := by
  obtain ⟨tree, hw, rfl⟩ := h
  intro name hmem
  obtain ⟨token, ht, rfl⟩ := List.mem_map.1 hmem
  exact hw.ordinary token ht

namespace Parser

variable {α : Type} {g : Grammar α} {t : Table} {ts : List Token}

/-- In front of a token named as the end, a sentence is accepted, and then input is left. -/
private theorem inputLeft_of_sentence (ht : Table.ofGrammar g = .ok t) {i : Nat} {token : Token}
    (hi : ts[i]? = some token) (hname : token.name = endName)
    (hs : g.Sentence ((ts.take i).map (·.name))) :
    ∃ fuel place, t.parseTokens fuel ts = .error (.inputLeft i place) := by
  have hp := parser_quiet t (.ofInput ts ())
  have hlt : i < ts.length := (List.getElem?_eq_some_iff.1 hi).1
  have hend : Tree.firstName (ts.drop i) = endName := by
    rw [Tree.firstName_drop, List.getElem?_map, hi]
    exact hname
  obtain ⟨run, q, below, node, hl, hq, ha, hnode, hc⟩ :=
    accepts_of_sentence (p := t.parser) ht hp hlt.le hs hend
  have hinput : run.context.feed.input = ts := hp.input_eq hl
  have hlt : run.context.feed.cursor < run.context.feed.input.length := by rwa [hc, hinput]
  have hfinish : (t.parser.finish (run.record (.accepted q))).1 =
      .error (.inputLeft i run.context.feed.place?) := by
    have hrecord : (run.record (.accepted q)).context = run.context := rfl
    rw [finish_of_lt (hrecord ▸ hnode) (hrecord ▸ hlt), hrecord, hc]
  obtain ⟨n, hn⟩ := loop_of_leads hl
  refine ⟨n + 1, run.context.feed.place?, ?_⟩
  rw [parseTokens_eq, hn 1, loop, step_of_accept hlt.le hq ha]
  exact hfinish

private theorem unexpected_or_left (ht : Table.ofGrammar g = .ok t) {fuel : Nat} {e : ParseError}
    (h : t.parseTokens fuel ts = .error e) :
    e.Unexpected ∨ ∃ i place, e = .inputLeft i place ∧
      (∃ token, ts[i]? = some token ∧ token.name = endName) ∧
      g.Sentence ((ts.take i).map (·.name)) := by
  have hparse : t.parser.parse fuel (.ofInput ts ()) = (.error e, _) := Prod.ext h rfl
  rcases refused_or_left (p := t.parser) ht (parser_quiet t _) hparse with
    ⟨-, q, below, -, -, rfl⟩ | hleft
  · exact .inl (badInput_unexpected ..)
  · exact .inr hleft

/-- Over the table of a grammar, without callbacks, and with tokens under any names. If a tree is
returned, the names of all tokens are ordinary. An error says that a token or the end is unexpected,
or that input is left; and input is left at a token if and only if it is the first one named as the
end of the input and the names in front of it are a sentence. -/
theorem impostors_refused (ht : Table.ofGrammar g = .ok t) (ts : List Token) :
    (∀ fuel tree, t.parseTokens fuel ts = .tree tree → ∀ token ∈ ts, g.Ordinary token.name) ∧
    (∀ fuel e, t.parseTokens fuel ts = .error e →
      e.Unexpected ∨ ∃ i place, e = .inputLeft i place) ∧
    ∀ i, (∃ fuel place, t.parseTokens fuel ts = .error (.inputLeft i place)) ↔
      ((∃ token, ts[i]? = some token ∧ token.name = endName) ∧
        ∀ token ∈ ts.take i, token.name ≠ endName) ∧
      g.Sentence ((ts.take i).map (·.name)) := by
  refine ⟨?_, ?_, fun i => ⟨?_, ?_⟩⟩
  · intro fuel tree h
    obtain ⟨hw, rfl⟩ := whole_of_parse ht h
    exact hw.ordinary
  · intro fuel e h
    rcases unexpected_or_left ht h with hu | ⟨i, place, rfl, -⟩
    · exact .inl hu
    · exact .inr ⟨i, place, rfl⟩
  · rintro ⟨fuel, place, h⟩
    rcases unexpected_or_left ht h with hu | ⟨j, place', he, hend, hs⟩
    · cases hu
    · cases he
      refine ⟨⟨hend, fun token hmem => ?_⟩, hs⟩
      exact (hs.ordinary token.name (List.mem_map_of_mem hmem)).1
  · rintro ⟨⟨⟨token, hi, hname⟩, -⟩, hs⟩
    exact inputLeft_of_sentence ht hi hname hs

/-- A token named `$` behind a sentence, and one named as an expression. -/
theorem impostors_refused_pair : Table.ofGrammar pairGrammar = .ok pairTable ∧
    (∃ fuel place, pairTable.parseTokens fuel [⟨"a", "a", .zero⟩, ⟨"b", "b", .zero⟩,
      ⟨"$", "$", .zero⟩, ⟨"b", "b", .zero⟩] = .error (.inputLeft 2 place)) ∧
    ∀ fuel tree,
      pairTable.parseTokens fuel [⟨"A", "a", .zero⟩, ⟨"b", "b", .zero⟩] ≠ .tree tree := by
  have hs : pairGrammar.Sentence ["a", "b"] :=
    ⟨pairTree ⟨"a", "a", .zero⟩ ⟨"b", "b", .zero⟩, ⟨(pairTree_derived rfl rfl).2, 0, _, rfl⟩, rfl⟩
  refine ⟨rfl, ((impostors_refused (g := pairGrammar) rfl _).2.2 2).2
    ⟨⟨⟨⟨"$", "$", .zero⟩, rfl, rfl⟩, by decide⟩, hs⟩, fun fuel tree h => ?_⟩
  have hordinary := (impostors_refused (g := pairGrammar) rfl _).1 fuel tree h
  obtain ⟨-, -, hnone⟩ := hordinary _ List.mem_cons_self
  cases hnone

end Parser

end CanonicalLR
