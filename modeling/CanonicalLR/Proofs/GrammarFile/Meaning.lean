import Mathlib.Data.List.Induction
import Mathlib.Tactic.IntervalCases
import CanonicalLR.Proofs.Reductions
import CanonicalLR.Proofs.GrammarFile.Lexemes

/-! What the trees of grammar files mean: which words they have for leaves, and which part of a file
the reductions build from them. -/
namespace CanonicalLR.GrammarFile

def grammar : Grammar (Reducer Builder) where
  definitions := definitions
  distinct := by decide
  unrepeated := by decide
  augmented := ⟨["$", "ident", "colon", "semi", "bar"],
    ["$start", "grammar", "definition", "alternatives", "sequence"],
    [⟨0, [.nonterminal 1], 0⟩, ⟨1, [.nonterminal 1, .nonterminal 2], 0⟩, ⟨1, [.nonterminal 2], 1⟩,
      ⟨2, [.terminal 1, .terminal 2, .nonterminal 3, .terminal 3], 0⟩,
      ⟨3, [.nonterminal 3, .terminal 4, .nonterminal 4], 0⟩, ⟨3, [.nonterminal 4], 1⟩,
      ⟨4, [.nonterminal 4, .terminal 1], 0⟩, ⟨4, [], 1⟩]⟩
  augmented_eq := by decide +kernel

@[simp] theorem symbols_building (symbols : List String)
    (f : List Partial → Tree → Except ReadError (List Partial)) :
    (building symbols f).symbols = symbols := rfl

def elementsWords (es : List String) : List Lexeme :=
  es.map .ident

def alternativesWords (as : List (List String)) : List Lexeme :=
  [.bar].intercalate (as.map elementsWords)

theorem alternativesWords_cons_cons (es fs : List String) (as : List (List String)) :
    alternativesWords (es :: fs :: as) =
      elementsWords es ++ .bar :: alternativesWords (fs :: as) := by
  simp [alternativesWords, List.intercalate_cons_cons]

def definitionWords (d : String × List (List String)) : List Lexeme :=
  .ident d.1 :: .colon :: alternativesWords d.2 ++ [.semi]

def words (ds : Definitions) : List Lexeme :=
  ds.flatMap definitionWords

namespace Partial

def kind : Partial → String
  | definitions _ => "grammar"
  | definition .. => "definition"
  | alternatives _ => "alternatives"
  | elements _ => "sequence"

def words : Partial → List Lexeme
  | definitions ds => GrammarFile.words ds
  | definition name as => definitionWords (name, as)
  | alternatives as => alternativesWords as
  | elements es => elementsWords es

/-- There is at least one definition, and at least one alternative in each. -/
def Full : Partial → Prop
  | definitions ds => ds ≠ [] ∧ ∀ d ∈ ds, d.2 ≠ []
  | definition _ as => as ≠ []
  | alternatives as => as ≠ []
  | elements _ => True

end Partial

/-- What the reduction to a node makes of the parts read so far. -/
def effect (node : Tree) (builder : Builder) : Builder :=
  (grammar.reducer ⟨⟨[], 0, builder⟩, [], [node]⟩).user

private theorem build_eq (f : List Partial → Tree → Except ReadError (List Partial))
    (feed : Feed Builder) (states : List Nat) (node : Tree) (nodes : List Tree) :
    build f ⟨feed, states, node :: nodes⟩ =
      { feed with user := (build f ⟨⟨[], 0, feed.user⟩, [], [node]⟩).user } := by
  simp only [build, Context.top?, List.head?_cons]
  split
  · rfl
  · cases f feed.user.stack node <;> rfl

private theorem exists_build {name : String} {k : Nat} {act : Reducer Builder}
    (h : grammar.action? name k = some act) : ∃ f, act = build f := by
  have hall : ∀ d ∈ definitions, ∀ a ∈ d.alternatives, ∃ f, a.action = some (build f) := by
    simp [definitions, building]
  simp only [Grammar.action?, Option.bind_eq_bind, Option.bind_eq_some_iff] at h
  obtain ⟨d, hd, a, ha, hact⟩ := h
  obtain ⟨f, hf⟩ := hall d (List.mem_of_find?_eq_some hd) a (List.mem_of_getElem? ha)
  exact ⟨f, Option.some.inj (hact.symm.trans hf)⟩

/-- The actions of the grammar of grammar files are those of `effect`. -/
theorem reducer_grammar : grammar.reducer = .ofEffect effect := by
  funext context
  obtain ⟨feed, states, nodes⟩ := context
  match nodes with
  | [] => rfl
  | .leaf token :: nodes => rfl
  | .node name k children :: nodes =>
    simp only [Reducer.ofEffect, effect, Grammar.reducer, Context.top?, List.head?_cons]
    cases ha : grammar.action? name k with
    | none => rfl
    | some act =>
      obtain ⟨f, rfl⟩ := exists_build ha
      exact build_eq f feed states _ nodes

/-- The tree is built over the words of a part, one constructor for each alternative of the
grammar. -/
inductive Means : Tree → Partial → Prop
  | definitions {ts t : Tree} {ds : Definitions} {name : String} {as : List (List String)} :
      Means ts (.definitions ds) → Means t (.definition name as) →
      Means (.node "grammar" 0 [ts, t]) (.definitions (ds ++ [(name, as)]))
  | firstDefinition {t : Tree} {name : String} {as : List (List String)} :
      Means t (.definition name as) → Means (.node "grammar" 1 [t]) (.definitions [(name, as)])
  | definition {ident colon semi : Token} {t : Tree} {as : List (List String)} :
      ident.name = "ident" → colon.name = "colon" → Means t (.alternatives as) →
      semi.name = "semi" →
      Means (.node "definition" 0 [.leaf ident, .leaf colon, t, .leaf semi])
        (.definition ident.content as)
  | alternatives {ts t : Tree} {bar : Token} {as : List (List String)} {es : List String} :
      Means ts (.alternatives as) → bar.name = "bar" → Means t (.elements es) →
      Means (.node "alternatives" 0 [ts, .leaf bar, t]) (.alternatives (as ++ [es]))
  | firstAlternative {t : Tree} {es : List String} :
      Means t (.elements es) → Means (.node "alternatives" 1 [t]) (.alternatives [es])
  | elements {t : Tree} {ident : Token} {es : List String} :
      Means t (.elements es) → ident.name = "ident" →
      Means (.node "sequence" 0 [t, .leaf ident]) (.elements (es ++ [ident.content]))
  | noElements : Means (.node "sequence" 1 []) (.elements [])

namespace Means

variable {t : Tree} {part : Partial}

private theorem name_eq (h : Means t part) : t.name = part.kind := by
  cases h <;> rfl

private theorem derived_leaf {token : Token} (word : Lexeme) (h : token.name = word.kind) :
    (Tree.leaf token).Derived grammar := by
  refine .leaf ?_
  rw [h]
  cases word <;> rfl

private theorem derived (h : Means t part) : t.Derived grammar := by
  induction h with
  | definitions hts ht ihs ih =>
    exact .node rfl rfl (by simp [hts.name_eq, ht.name_eq, Partial.kind]) (by simpa using ⟨ihs, ih⟩)
  | firstDefinition ht ih =>
    exact .node rfl rfl (by simp [ht.name_eq, Partial.kind]) (by simpa using ih)
  | definition hident hcolon ht hsemi ih =>
    refine .node rfl rfl (by simp [ht.name_eq, hident, hcolon, hsemi, Partial.kind]) ?_
    simpa using ⟨derived_leaf (.ident "") hident, derived_leaf .colon hcolon, ih,
      derived_leaf .semi hsemi⟩
  | alternatives hts hbar ht ihs ih =>
    refine .node rfl rfl (by simp [hts.name_eq, ht.name_eq, hbar, Partial.kind]) ?_
    simpa using ⟨ihs, derived_leaf .bar hbar, ih⟩
  | firstAlternative ht ih =>
    exact .node rfl rfl (by simp [ht.name_eq, Partial.kind]) (by simpa using ih)
  | elements ht hident ih =>
    refine .node rfl rfl (by simp [ht.name_eq, hident, Partial.kind]) ?_
    simpa using ⟨ih, derived_leaf (.ident "") hident⟩
  | noElements => exact .node rfl rfl rfl (by simp)

end Means

private theorem words_append (ds : Definitions) (d : String × List (List String)) :
    words (ds ++ [d]) = words ds ++ definitionWords d := by
  simp [words]

private theorem alternativesWords_append {as : List (List String)} (h : as ≠ [])
    (es : List String) :
    alternativesWords (as ++ [es]) = alternativesWords as ++ .bar :: elementsWords es := by
  induction as with
  | nil => exact absurd rfl h
  | cons fs as ih =>
    cases as with
    | nil => simp [alternativesWords, List.intercalate_cons_cons]
    | cons gs as =>
      have ih := ih (by simp)
      rw [List.cons_append] at ih
      simp only [List.cons_append, alternativesWords_cons_cons, ih, List.append_assoc]

namespace Means

variable {t : Tree} {part : Partial}

/-- Visiting the nodes of a tree puts what it means on top of the parts read so far. -/
theorem visit (h : Means t part) (stack : List Partial) :
    t.visit effect ⟨stack, none⟩ = ⟨part :: stack, none⟩ := by
  induction h generalizing stack with
  | definitions _ _ ihs ih =>
    simp only [Tree.visit, Tree.visitAll, ihs, ih]
    rfl
  | firstDefinition _ ih =>
    simp only [Tree.visit, Tree.visitAll, ih]
    rfl
  | definition _ _ _ _ ih =>
    simp only [Tree.visit, Tree.visitAll, ih]
    rfl
  | alternatives _ _ _ ihs ih =>
    simp only [Tree.visit, Tree.visitAll, ihs, ih]
    rfl
  | firstAlternative _ ih =>
    simp only [Tree.visit, Tree.visitAll, ih]
    rfl
  | elements _ _ ih =>
    simp only [Tree.visit, Tree.visitAll, ih]
    rfl
  | noElements => rfl

/-- No list of definitions or alternatives that a tree means is empty. -/
theorem full (h : Means t part) : part.Full := by
  induction h with
  | definitions _ _ ihs ih =>
    refine ⟨by simp, fun d hd => ?_⟩
    rcases List.mem_append.1 hd with hd | hd
    · exact ihs.2 d hd
    · rw [List.mem_singleton.1 hd]
      exact ih
  | firstDefinition _ ih => simpa [Partial.Full] using ih
  | definition _ _ _ _ ih => exact ih
  | alternatives => simp [Partial.Full]
  | firstAlternative => simp [Partial.Full]
  | elements => trivial
  | noElements => trivial

/-- The leaves of a tree stand for the words of what it means. -/
theorem leaves_eq (h : Means t part) : t.leaves.map lexeme? = part.words.map some := by
  induction h with
  | definitions _ _ ihs ih =>
    simp [Tree.leaves, Tree.leavesOfAll, ihs, ih, Partial.words, words_append]
  | firstDefinition _ ih => simp [Tree.leaves, Tree.leavesOfAll, ih, Partial.words, words]
  | definition hident hcolon _ hsemi ih =>
    simp [Tree.leaves, Tree.leavesOfAll, ih, Partial.words, definitionWords, lexeme?, hident,
      hcolon, hsemi]
  | alternatives hts hbar _ ihs ih =>
    simp [Tree.leaves, Tree.leavesOfAll, ihs, ih, Partial.words, lexeme?, hbar,
      alternativesWords_append hts.full]
  | firstAlternative _ ih =>
    simp [Tree.leaves, Tree.leavesOfAll, ih, Partial.words, alternativesWords]
  | elements _ hident ih =>
    simp [Tree.leaves, Tree.leavesOfAll, ih, Partial.words, elementsWords, lexeme?, hident]
  | noElements => rfl

end Means

/-- A token that stands for a word has its kind, and its text if the word is a name. -/
theorem of_lexeme? {token : Token} {word : Lexeme} (h : lexeme? token = some word) :
    token.name = word.kind ∧ ∀ name, word = .ident name → token.content = name := by
  unfold lexeme? at h
  split at h
  all_goals cases h
  all_goals rename_i hname
  all_goals refine ⟨hname, ?_⟩
  all_goals rintro name ⟨⟩
  rfl

private theorem exists_last {tokens : List Token} {ws : List Lexeme} {word : Lexeme}
    (h : tokens.map lexeme? = (ws ++ [word]).map some) :
    ∃ before token, tokens = before ++ [token] ∧ before.map lexeme? = ws.map some ∧
      lexeme? token = some word := by
  rw [List.map_append, List.map_eq_append_iff] at h
  obtain ⟨before, last, rfl, hbefore, hlast⟩ := h
  obtain ⟨token, rfl, htoken⟩ := List.map_eq_singleton_iff.1 hlast
  exact ⟨before, token, rfl, hbefore, htoken⟩

private theorem exists_means_elements {es : List String} {tokens : List Token}
    (h : tokens.map lexeme? = (elementsWords es).map some) :
    ∃ t, Means t (.elements es) ∧ t.leaves = tokens := by
  induction es using List.reverseRecOn generalizing tokens with
  | nil =>
    cases List.map_eq_nil_iff.1 h
    exact ⟨_, .noElements, rfl⟩
  | append_singleton es e ih =>
    rw [elementsWords, List.map_append] at h
    obtain ⟨before, token, rfl, hbefore, htoken⟩ := exists_last h
    obtain ⟨hname, hcontent⟩ := of_lexeme? htoken
    obtain rfl : token.content = e := hcontent e rfl
    obtain ⟨t, ht, rfl⟩ := ih hbefore
    exact ⟨_, .elements ht hname, by simp [Tree.leaves, Tree.leavesOfAll]⟩

private theorem exists_means_alternatives {as : List (List String)} (hne : as ≠ [])
    {tokens : List Token} (h : tokens.map lexeme? = (alternativesWords as).map some) :
    ∃ t, Means t (.alternatives as) ∧ t.leaves = tokens := by
  induction as using List.reverseRecOn generalizing tokens with
  | nil => exact absurd rfl hne
  | append_singleton as es ih =>
    by_cases has : as = []
    · subst has
      have h : tokens.map lexeme? = (elementsWords es).map some := by
        simpa [alternativesWords] using h
      obtain ⟨t, ht, rfl⟩ := exists_means_elements h
      exact ⟨_, .firstAlternative ht, by simp [Tree.leaves, Tree.leavesOfAll]⟩
    · rw [alternativesWords_append has, List.append_cons, List.map_append,
        List.map_eq_append_iff] at h
      obtain ⟨before, last, rfl, hbefore, hlast⟩ := h
      obtain ⟨before, bar, rfl, hbefore, hbar⟩ := exists_last hbefore
      obtain ⟨ts, hts, rfl⟩ := ih has hbefore
      obtain ⟨t, ht, rfl⟩ := exists_means_elements hlast
      exact ⟨_, .alternatives hts (of_lexeme? hbar).1 ht, by simp [Tree.leaves, Tree.leavesOfAll]⟩

private theorem exists_means_definition {name : String} {as : List (List String)} (hne : as ≠ [])
    {tokens : List Token} (h : tokens.map lexeme? = (definitionWords (name, as)).map some) :
    ∃ t, Means t (.definition name as) ∧ t.leaves = tokens := by
  obtain ⟨before, semi, rfl, hbefore, hsemi⟩ := exists_last h
  obtain ⟨ident, before, rfl, hident, hbefore⟩ := List.map_eq_cons_iff.1 hbefore
  obtain ⟨colon, before, rfl, hcolon, hbefore⟩ := List.map_eq_cons_iff.1 hbefore
  obtain ⟨t, ht, rfl⟩ := exists_means_alternatives hne hbefore
  obtain ⟨hname, hcontent⟩ := of_lexeme? hident
  obtain rfl : ident.content = name := hcontent name rfl
  exact ⟨_, .definition hname (of_lexeme? hcolon).1 ht (of_lexeme? hsemi).1,
    by simp [Tree.leaves, Tree.leavesOfAll]⟩

/-- There is a tree for every sequence of tokens that stand for the words of definitions. -/
theorem exists_means {ds : Definitions} (hne : ds ≠ []) (has : ∀ d ∈ ds, d.2 ≠ [])
    {tokens : List Token} (h : tokens.map lexeme? = (words ds).map some) :
    ∃ t, Means t (.definitions ds) ∧ t.leaves = tokens := by
  induction ds using List.reverseRecOn generalizing tokens with
  | nil => exact absurd rfl hne
  | append_singleton ds d ih =>
    rw [words_append, List.map_append, List.map_eq_append_iff] at h
    obtain ⟨before, last, rfl, hbefore, hlast⟩ := h
    obtain ⟨t, ht, rfl⟩ := exists_means_definition (has d (by simp)) hlast
    by_cases hds : ds = []
    · subst hds
      cases List.map_eq_nil_iff.1 hbefore
      exact ⟨_, .firstDefinition ht, by simp [Tree.leaves, Tree.leavesOfAll]⟩
    · obtain ⟨ts, hts, rfl⟩ := ih hds (fun e he => has e (List.mem_append_left _ he)) hbefore
      exact ⟨_, .definitions hts ht, by simp [Tree.leaves, Tree.leavesOfAll]⟩

private def Read (t : Tree) : Prop :=
  (∃ token, t = .leaf token ∧ grammar.definition? token.name = none) ∨ ∃ part, Means t part

namespace Read

variable {t : Tree} {name : String}

private theorem means (h : Read t) (hn : t.name = name) (hd : grammar.definition? name ≠ none) :
    ∃ part, Means t part ∧ part.kind = name := by
  rcases h with ⟨token, rfl, hnone⟩ | ⟨part, h⟩
  · rw [← hn] at hd
    exact absurd hnone hd
  · exact ⟨part, h, h.name_eq.symm.trans hn⟩

private theorem leaf (h : Read t) (hn : t.name = name) (hd : grammar.definition? name = none) :
    ∃ token, t = .leaf token ∧ token.name = name := by
  rcases h with ⟨token, rfl, -⟩ | ⟨part, h⟩
  · exact ⟨token, rfl, hn⟩
  · rw [← hn, h.name_eq] at hd
    cases part <;> cases hd

private theorem definitions (h : Read t) (hn : t.name = "grammar") :
    ∃ ds, Means t (.definitions ds) := by
  obtain ⟨part, hp, hk⟩ := h.means hn nofun
  cases part with
  | definitions ds => exact ⟨ds, hp⟩
  | _ => simp [Partial.kind] at hk

private theorem definition (h : Read t) (hn : t.name = "definition") :
    ∃ name as, Means t (.definition name as) := by
  obtain ⟨part, hp, hk⟩ := h.means hn nofun
  cases part with
  | definition name as => exact ⟨name, as, hp⟩
  | _ => simp [Partial.kind] at hk

private theorem alternatives (h : Read t) (hn : t.name = "alternatives") :
    ∃ as, Means t (.alternatives as) := by
  obtain ⟨part, hp, hk⟩ := h.means hn nofun
  cases part with
  | alternatives as => exact ⟨as, hp⟩
  | _ => simp [Partial.kind] at hk

private theorem elements (h : Read t) (hn : t.name = "sequence") :
    ∃ es, Means t (.elements es) := by
  obtain ⟨part, hp, hk⟩ := h.means hn nofun
  cases part with
  | elements es => exact ⟨es, hp⟩
  | _ => simp [Partial.kind] at hk

end Read

private theorem alternative_cases {name : String} {k : Nat} {d : Definition (Reducer Builder)}
    {a : Alternative (Reducer Builder)} (hd : grammar.definition? name = some d)
    (ha : d.alternatives[k]? = some a) :
    (name = "grammar" ∧ (k = 0 ∧ a.symbols = ["grammar", "definition"] ∨
      k = 1 ∧ a.symbols = ["definition"])) ∨
    (name = "definition" ∧ k = 0 ∧ a.symbols = ["ident", "colon", "alternatives", "semi"]) ∨
    (name = "alternatives" ∧ (k = 0 ∧ a.symbols = ["alternatives", "bar", "sequence"] ∨
      k = 1 ∧ a.symbols = ["sequence"])) ∨
    name = "sequence" ∧ (k = 0 ∧ a.symbols = ["sequence", "ident"] ∨ k = 1 ∧ a.symbols = []) := by
  have hmem : d ∈ GrammarFile.definitions := List.mem_of_find?_eq_some hd
  have hname : d.name = name := by simpa using List.find?_some hd
  have hk : k < d.alternatives.length := (List.getElem?_eq_some_iff.1 ha).1
  simp only [GrammarFile.definitions, List.mem_cons, List.not_mem_nil, or_false] at hmem
  subst hname
  rcases hmem with rfl | rfl | rfl | rfl
  all_goals simp only [List.length_cons, List.length_nil] at hk
  all_goals interval_cases k
  all_goals cases ha
  all_goals simp

private theorem read_node {name : String} {k : Nat} {children : List Tree}
    {d : Definition (Reducer Builder)} {a : Alternative (Reducer Builder)}
    (hd : grammar.definition? name = some d) (ha : d.alternatives[k]? = some a)
    (hc : children.map Tree.name = a.symbols) (h : ∀ t ∈ children, Read t) :
    ∃ part, Means (.node name k children) part := by
  rcases alternative_cases hd ha with ⟨rfl, ⟨rfl, hs⟩ | ⟨rfl, hs⟩⟩ | ⟨rfl, rfl, hs⟩ |
    ⟨rfl, ⟨rfl, hs⟩ | ⟨rfl, hs⟩⟩ | ⟨rfl, ⟨rfl, hs⟩ | ⟨rfl, hs⟩⟩
  all_goals rw [hs] at hc
  all_goals simp only [List.map_eq_cons_iff, List.map_eq_nil_iff] at hc
  · obtain ⟨ts, _, rfl, hts, t, _, rfl, ht, rfl⟩ := hc
    obtain ⟨ds, hds⟩ := (h ts (by simp)).definitions hts
    obtain ⟨name, as, has⟩ := (h t (by simp)).definition ht
    exact ⟨_, .definitions hds has⟩
  · obtain ⟨t, _, rfl, ht, rfl⟩ := hc
    obtain ⟨name, as, has⟩ := (h t (by simp)).definition ht
    exact ⟨_, .firstDefinition has⟩
  · obtain ⟨i, _, rfl, hi, c, _, rfl, hcolon, t, _, rfl, ht, s, _, rfl, hsemi, rfl⟩ := hc
    obtain ⟨ident, rfl, hident⟩ := (h i (by simp)).leaf hi rfl
    obtain ⟨colon, rfl, hcolon⟩ := (h c (by simp)).leaf hcolon rfl
    obtain ⟨as, has⟩ := (h t (by simp)).alternatives ht
    obtain ⟨semi, rfl, hsemi⟩ := (h s (by simp)).leaf hsemi rfl
    exact ⟨_, .definition hident hcolon has hsemi⟩
  · obtain ⟨ts, _, rfl, hts, b, _, rfl, hb, t, _, rfl, ht, rfl⟩ := hc
    obtain ⟨as, has⟩ := (h ts (by simp)).alternatives hts
    obtain ⟨bar, rfl, hbar⟩ := (h b (by simp)).leaf hb rfl
    obtain ⟨es, hes⟩ := (h t (by simp)).elements ht
    exact ⟨_, .alternatives has hbar hes⟩
  · obtain ⟨t, _, rfl, ht, rfl⟩ := hc
    obtain ⟨es, hes⟩ := (h t (by simp)).elements ht
    exact ⟨_, .firstAlternative hes⟩
  · obtain ⟨t, _, rfl, ht, i, _, rfl, hi, rfl⟩ := hc
    obtain ⟨es, hes⟩ := (h t (by simp)).elements ht
    obtain ⟨ident, rfl, hident⟩ := (h i (by simp)).leaf hi rfl
    exact ⟨_, .elements hes hident⟩
  · subst hc
    exact ⟨_, .noElements⟩

private theorem read_of_derived {t : Tree} (h : t.Derived grammar) : Read t := by
  induction h with
  | leaf hd => exact .inl ⟨_, rfl, hd⟩
  | node hd ha hc _ ih => exact .inr (read_node hd ha hc ih)

/-- Every derivation tree of a file means some definitions. -/
theorem exists_means_of_whole {t : Tree} (h : t.Whole grammar) :
    ∃ ds, Means t (.definitions ds) := by
  obtain ⟨hd, k, children, rfl⟩ := h
  exact (read_of_derived hd).definitions rfl

/-- A tree that means definitions is a derivation of the start expression. -/
theorem Means.whole {t : Tree} {ds : Definitions} (h : Means t (.definitions ds)) :
    t.Whole grammar := by
  refine ⟨h.derived, ?_⟩
  cases h <;> exact ⟨_, _, rfl⟩

end CanonicalLR.GrammarFile
