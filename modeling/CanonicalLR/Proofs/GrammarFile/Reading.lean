import CanonicalLR.Proofs.Definitions
import CanonicalLR.Proofs.EarlyErrors
import CanonicalLR.Proofs.Recovery
import CanonicalLR.Proofs.GrammarFile.Meaning

/-! Reading grammar files: a text is read if and only if its words are those of some definitions, and
what is read is these definitions. -/
namespace CanonicalLR

namespace GrammarFile

def table : Table where
  start := 0
  states := .ofList [
    (0, ⟨.ofList [("ident", .shift 3)], .ofList [("grammar", 1), ("definition", 2)]⟩),
    (1, ⟨.ofList [("ident", .shift 3), ("$", .accept)], .ofList [("definition", 4)]⟩),
    (2, ⟨.ofList [("$", .reduce "grammar" 1 1), ("ident", .reduce "grammar" 1 1)], .empty⟩),
    (3, ⟨.ofList [("colon", .shift 5)], .empty⟩),
    (4, ⟨.ofList [("$", .reduce "grammar" 0 2), ("ident", .reduce "grammar" 0 2)], .empty⟩),
    (5, ⟨.ofList [("ident", .reduce "sequence" 1 0), ("semi", .reduce "sequence" 1 0),
      ("bar", .reduce "sequence" 1 0)], .ofList [("alternatives", 6), ("sequence", 7)]⟩),
    (6, ⟨.ofList [("semi", .shift 8), ("bar", .shift 9)], .empty⟩),
    (7, ⟨.ofList [("ident", .shift 10), ("semi", .reduce "alternatives" 1 1),
      ("bar", .reduce "alternatives" 1 1)], .empty⟩),
    (8, ⟨.ofList [("$", .reduce "definition" 0 4), ("ident", .reduce "definition" 0 4)], .empty⟩),
    (9, ⟨.ofList [("ident", .reduce "sequence" 1 0), ("semi", .reduce "sequence" 1 0),
      ("bar", .reduce "sequence" 1 0)], .ofList [("sequence", 11)]⟩),
    (10, ⟨.ofList [("ident", .reduce "sequence" 0 2), ("semi", .reduce "sequence" 0 2),
      ("bar", .reduce "sequence" 0 2)], .empty⟩),
    (11, ⟨.ofList [("ident", .shift 10), ("semi", .reduce "alternatives" 0 3),
      ("bar", .reduce "alternatives" 0 3)], .empty⟩)]

private theorem ofGrammar_grammar : Table.ofGrammar grammar = .ok table := by decide +kernel

/-- How many reductions can follow before the next token is read. -/
def rank (state : Nat) : Nat :=
  [0, 0, 1, 0, 1, 2, 0, 1, 2, 2, 2, 1].getD state 0

private theorem table_ranked : table.Ranked rank 2 :=
  Table.ranked_of_check (by decide +kernel)

private theorem format_eq : format = .ok ⟨grammar, table, lexer⟩ := by
  have hdefine : Grammar.define definitions = .ok grammar := Grammar.define_eq_ok_iff.2 rfl
  rw [format, hdefine]
  simp only [Except.mapError, bind, Except.bind, ofGrammar_grammar, ofRules_rules]
  rfl

def parser : Parser Builder where
  table := table
  reducer := some grammar.reducer

def run (tokens : List Token) : Parser.Outcome × Run Builder :=
  parser.parse (8 * (tokens.length + 1)) (.ofInput tokens {})

private theorem exists_run (source : String) : ∃ tokens,
    tokens.map lexeme? = (lexemes source.toList).map some ∧ read source = built (run tokens) := by
  obtain ⟨tokens, htokens, hwords⟩ := exists_tokenize source
  refine ⟨tokens, hwords, ?_⟩
  have htokenize : (⟨grammar, table, lexer⟩ : Format).tokenize source = .ok tokens := by
    rw [Format.tokenize, htokens]
    rfl
  simp only [read, format_eq, bind, Except.bind, htokenize]
  rfl

private theorem parser_reducer : parser.reducer = some (.ofEffect effect) :=
  congrArg some reducer_grammar

private theorem quiet (tokens : List Token) : parser.Quiet (.ofInput tokens {}) :=
  Parser.quiet_of_effect rfl parser_reducer _

private theorem run_ne_cutShort (tokens : List Token) : (run tokens).1 ≠ .cutShort := by
  apply Parser.parse_ne_cutShort (p := parser) table_ranked (quiet tokens)
  have hstart : rank parser.table.start = 0 := rfl
  have hinput : (Context.ofInput tokens ({} : Builder)).feed.input = tokens := rfl
  rw [hstart, hinput]
  omega

private theorem means_of_run {tokens : List Token} {tree : Tree} {final : Run Builder}
    (h : run tokens = (.tree tree, final)) : ∃ ds, Means tree (.definitions ds) ∧
      tree.leaves = tokens ∧ built (run tokens) = .ok ds := by
  obtain ⟨⟨last, hl, hfeed⟩, hw, hleaves⟩ :=
    Parser.whole_of_careful (p := parser) ofGrammar_grammar (quiet tokens).careful h
  obtain ⟨ds, hds⟩ := exists_means_of_whole hw
  rw [hfeed, (quiet tokens).input_eq hl] at hleaves
  refine ⟨ds, hds, hleaves, ?_⟩
  have huser := Parser.user_of_tree (p := parser) rfl parser_reducer h
  have hvisit : final.context.feed.user = ⟨[.definitions ds], none⟩ := huser.trans (hds.visit [])
  rw [h]
  simp only [built, hvisit]

private theorem run_cases {tokens : List Token} {ws : List Lexeme}
    (hwords : tokens.map lexeme? = ws.map some) :
    (∃ tree final, run tokens = (.tree tree, final)) ∨
      ∃ e final, run tokens = (.error e, final) ∧ e.Unexpected := by
  cases hrun : run tokens with
  | mk outcome final =>
    cases outcome with
    | tree tree => exact .inl ⟨tree, final, rfl⟩
    | cutShort => exact absurd (congrArg Prod.fst hrun) (run_ne_cutShort tokens)
    | error e =>
      refine .inr ⟨e, final, rfl, ?_⟩
      rcases Parser.refused_or_left (p := parser) ofGrammar_grammar (quiet tokens) hrun with
        ⟨-, q, below, -, -, rfl⟩ | ⟨i, place, -, ⟨token, htoken, hname⟩, -⟩
      · exact Parser.badInput_unexpected ..
      · have hmem : lexeme? token ∈ ws.map some := 
          hwords ▸ List.mem_map_of_mem (List.mem_of_getElem? htoken)
        obtain ⟨word, -, hword⟩ := List.mem_map.1 hmem
        have hkind : word.kind = endName := (of_lexeme? hword.symm).1.symm.trans hname
        cases word <;> simp [Lexeme.kind, endName] at hkind

private theorem run_of_means {t : Tree} {ds : Definitions} (h : Means t (.definitions ds)) :
    ∃ final, run t.leaves = (.tree t, final) := by
  have hs : grammar.Sentence (t.leaves.map (·.name)) := ⟨t, h.whole, rfl⟩
  obtain ⟨fuel, tree, htree⟩ : ∃ fuel tree,
      (parser.parse fuel (.ofInput t.leaves {})).1 = .tree tree :=
    Parser.exists_tree_of_sentence ofGrammar_grammar (quiet t.leaves).passive hs
  have hrun : run t.leaves = parser.parse fuel (.ofInput t.leaves {}) :=
    Parser.loop_unique (run_ne_cutShort t.leaves) (by rw [Parser.parse] at htree; rw [htree]; simp)
  rw [← hrun] at htree
  have hrun : run t.leaves = (.tree tree, (run t.leaves).2) := Prod.ext htree rfl
  obtain ⟨ds', hmeans, hleaves, -⟩ := means_of_run hrun
  obtain rfl := Parser.whole_unique ofGrammar_grammar h.whole hmeans.whole hleaves
  exact ⟨_, hrun⟩

/-- A text is read as definitions if and only if its words are those of the definitions. -/
theorem read_eq_ok_iff {source : String} {ds : Definitions} : read source = .ok ds ↔
    ds ≠ [] ∧ (∀ d ∈ ds, d.2 ≠ []) ∧ lexemes source.toList = words ds := by
  obtain ⟨tokens, hwords, hread⟩ := exists_run source
  rw [hread]
  constructor
  · intro h
    rcases run_cases hwords with ⟨tree, final, hrun⟩ | ⟨e, final, hrun, -⟩
    · obtain ⟨ds', hmeans, rfl, hbuilt⟩ := means_of_run hrun
      cases h.symm.trans hbuilt
      obtain ⟨hne, has⟩ := hmeans.full
      refine ⟨hne, has, List.map_injective_iff.2 (Option.some_injective _) ?_⟩
      exact hwords.symm.trans hmeans.leaves_eq
    · rw [hrun] at h
      cases h
  · rintro ⟨hne, has, h⟩
    rw [h] at hwords
    obtain ⟨t, ht, rfl⟩ := exists_means hne has hwords
    obtain ⟨final, hrun⟩ := run_of_means ht
    obtain ⟨ds', hmeans, -, hbuilt⟩ := means_of_run hrun
    have hstack := (ht.visit []).symm.trans (hmeans.visit [])
    rw [hbuilt]
    simpa using hstack.symm

/-- A text is read as definitions if and only if its words are those of the definitions, of which
there are some, each with some alternative. In every other text a token is unexpected, or the end. -/
theorem read_exact (source : String) :
    (∀ ds, read source = .ok ds ↔
      ds ≠ [] ∧ (∀ d ∈ ds, d.2 ≠ []) ∧ lexemes source.toList = words ds) ∧
    ∀ e, read source = .error e → ∃ reason, e = .parse reason ∧ reason.Unexpected := by
  refine ⟨fun ds => read_eq_ok_iff, fun e h => ?_⟩
  obtain ⟨tokens, hwords, hread⟩ := exists_run source
  rw [hread] at h
  rcases run_cases hwords with ⟨tree, final, hrun⟩ | ⟨reason, final, hrun, hreason⟩
  · obtain ⟨ds, -, -, hbuilt⟩ := means_of_run hrun
    cases h.symm.trans hbuilt
  · rw [hrun] at h
    cases h
    exact ⟨reason, rfl, hreason⟩

/-- An empty alternative and a comment are read; a name alone is refused. -/
theorem read_exact_samples :
    read "E :|a # b\n;" = .ok [("E", [[], ["a"]])] ∧
    ∃ reason, read "E" = .error (.parse reason) ∧ reason.Unexpected := by
  constructor
  · exact ((read_exact _).1 _).2 ⟨by simp, by simp, by decide +kernel⟩
  · cases h : read "E" with
    | error e =>
      obtain ⟨reason, rfl, hreason⟩ := (read_exact "E").2 e h
      exact ⟨reason, rfl, hreason⟩
    | ok ds =>
      obtain ⟨hne, -, hwords⟩ := ((read_exact "E").1 ds).1 h
      obtain ⟨d, ds, rfl⟩ := List.exists_cons_of_ne_nil hne
      have hone : lexemes "E".toList = [.ident "E"] := by decide +kernel
      rw [hone] at hwords
      simp [words, definitionWords] at hwords

end GrammarFile

end CanonicalLR
