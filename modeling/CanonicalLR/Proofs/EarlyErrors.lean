import CanonicalLR.Proofs.Halting
import CanonicalLR.Proofs.Lockstep

/-! Errors are found at the first token that no sentence goes on with, before anything is reduced on
it, and what is expected there is what sentences go on with. -/
namespace CanonicalLR

open AugmentedGrammar

namespace Grammar

variable {α : Type} {g : Grammar α}

/-- Some sentence begins with the names. -/
def Opens (g : Grammar α) (names : List String) : Prop :=
  ∃ rest, g.Sentence (names ++ rest)

end Grammar

/-- A token or the end of the input came where it can not stand. -/
def ParseError.Unexpected : ParseError → Prop
  | unexpectedToken .. => True
  | unexpectedEnd .. => True
  | _ => False

/-- The terminals that are expected are those that have an action. -/
theorem Table.mem_expected_iff {t : Table} {q : Nat} {name : String} :
    name ∈ t.expected q ↔ t.action? q name ≠ none := by
  unfold expected action?
  cases t.row? q with
  | none => simp
  | some row =>
    rw [Option.bind_some, Option.ne_none_iff_exists']
    simp only [Option.map_some, Option.getD_some, Dict.keys, Dict.get?_eq_some_iff]
    simp

namespace Parser

/-- Bad input is a token or an end that is unexpected, and nothing else. -/
theorem badInput_unexpected {υ : Type} (p : Parser υ) (feed : Feed υ) (q : Nat) :
    (p.badInput feed q).Unexpected := by
  unfold badInput
  split <;> trivial

/-- The run is at its start, or its last step read a token. -/
def Fresh {υ : Type} (p : Parser υ) (context : Context υ) (run : Run υ) : Prop :=
  run = .start p context ∨ ∃ before token state, p.Leads (.start p context) before ∧
    p.step before = .next run ∧ run.events = .shifted token state :: before.events

/-- A run over some tokens that stands in a state without an action for its lookahead. -/
structure Refused (t : Table) (ts : List Token) (run : Run Unit) (q : Nat) : Prop where
  leads : t.parser.Leads (.start t.parser (.ofInput ts ())) run
  state : ∃ below, run.context.states = q :: below
  action : t.action? q run.context.feed.lookaheadName = none

variable {α : Type} {g : Grammar α} {t : Table} {ts : List Token} {run : Run Unit} {q : Nat}

private theorem read_of_leads (hl : t.parser.Leads (.start t.parser (.ofInput ts ())) run) :
    run.context.feed.cursor ≤ ts.length ∧
      Tree.leavesOfAll run.context.nodes.reverse = ts.take run.context.feed.cursor := by
  have hp := parser_quiet t (.ofInput ts ())
  have hi : run.context.feed.input = ts := hp.input_eq hl
  have hy := yield_of_leads hp.careful hl
  rwa [hi] at hy

private theorem opens_of_leads (ht : Table.ofGrammar g = .ok t) (hg : g.Fertile)
    (hl : t.parser.Leads (.start t.parser (.ofInput ts ())) run) :
    g.Opens ((ts.take run.context.feed.cursor).map (·.name)) := by
  obtain ⟨γ, hs⟩ := stacked_of_leads (p := t.parser) ht hl
  obtain ⟨_, _, -, hreads⟩ := hs.reads
  obtain ⟨i, hv⟩ := g.exists_valid_of_reads hreads
  obtain ⟨trees, hd, hn⟩ := hg.exists_forest fun s hm => Grammar.used_of_mem_remaining hv hm
  have hnames : run.context.nodes.reverse.map Tree.name =
      γ.reverse.map g.augmented.symbolName := by
    rw [List.map_reverse, List.map_reverse, hs.names]
  obtain ⟨tree, rest, hw, hleaves, -⟩ := hg.exists_whole hv
    (fun u hu => hs.derived u (List.mem_reverse.1 hu)) hnames hd hn
  refine ⟨(Tree.leavesOfAll trees ++ rest).map (·.name), tree, hw, ?_⟩
  rw [hleaves, (read_of_leads hl).2, List.map_append]

/-- A name that there is an action for comes next in some input that a tree is derived for. -/
private theorem exists_whole_of_action (ht : Table.ofGrammar g = .ok t) (hg : g.Fertile)
    (hl : t.parser.Leads (.start t.parser (.ofInput ts ())) run) {below : List Nat}
    (hq : run.context.states = q :: below) {name : String} {act : Action}
    (ha : t.action? q name = some act) :
    ∃ (tree : Tree) (rest : List Token), tree.Whole g ∧
      tree.leaves = ts.take run.context.feed.cursor ++ rest ∧ Tree.firstName rest = name := by
  obtain ⟨γ, hs⟩ := stacked_of_leads (p := t.parser) ht hl
  rw [hq] at hs
  have hfollowed := followed_of_action ht hs ha
  rw [← (read_of_leads hl).2]
  exact hg.exists_whole_of_followed hfollowed

/-- A token on which a run reduces goes on with a sentence, and the run over that sentence takes the
same steps. So nothing was reduced on a token that is refused. -/
private theorem Refused.fresh (ht : Table.ofGrammar g = .ok t) (hg : g.Fertile)
    (h : Refused t ts run q) : t.parser.Fresh (.ofInput ts ()) run := by
  obtain ⟨hl, ⟨below, hq⟩, hnone⟩ := h
  rcases Relation.ReflTransGen.cases_tail hl with rfl | ⟨before, hl', hs⟩
  · exact .inl rfl
  obtain ⟨-, r, below', hr, hm⟩ := moved_of_step hs
  cases hm with
  | shift token next _ _ he => exact .inr ⟨before, token, next, hl', hs, by rw [he]⟩
  | reduce expression k len exposed next rest ha _ _ _ _ _ hf =>
    have hfeed : run.context.feed = before.context.feed := hf rfl
    rw [← hfeed] at ha
    obtain ⟨tree, more, hw, hleaves, hfirst⟩ := exists_whole_of_action ht hg hl' hr ha
    rw [← hfeed] at hleaves
    have hp := parser_quiet t (.ofInput ts ())
    have hp' := parser_quiet t (.ofInput tree.leaves ())
    have hle := (read_of_leads hl).1
    have hsame : ∀ c < run.context.feed.cursor,
        Tree.firstName (tree.leaves.drop c) = Tree.firstName (ts.drop c) :=
      (Tree.firstName_drop_eq hle (by rw [hleaves, List.map_append])).1
    have hlast : Tree.firstName (tree.leaves.drop run.context.feed.cursor) =
        run.context.feed.lookaheadName := by
      rw [hleaves, List.drop_left' (List.length_take_of_le hle), hfirst]
    have hagree : ∀ c ≤ run.context.feed.cursor,
        Tree.firstName (tree.leaves.drop c) = Tree.firstName (ts.drop c) := by
      intro c hc
      rcases Nat.lt_or_eq_of_le hc with hc | rfl
      · exact hsame c hc
      · exact hlast.trans (hp.lookaheadName_eq hl)
    obtain ⟨twin, htwin, halike⟩ := lockstep (p := t.parser) ht rfl hp hp' hl hagree
    have hact := action_of_twin ht hw htwin halike hq
    rw [hlast] at hact
    exact absurd hnone hact
  | recover hb => exact absurd rfl hb

/-- A run that just read a token has an action for all that goes on with a sentence. -/
private theorem Fresh.action (ht : Table.ofGrammar g = .ok t)
    (hf : t.parser.Fresh (.ofInput ts ()) run)
    (hl : t.parser.Leads (.start t.parser (.ofInput ts ())) run) {below : List Nat}
    (hq : run.context.states = q :: below) {more : List String}
    (h : g.Sentence ((ts.take run.context.feed.cursor).map (·.name) ++ more)) :
    t.action? q (more.headD endName) ≠ none := by
  obtain ⟨tree, hw, hnames⟩ := h
  have hp := parser_quiet t (.ofInput ts ())
  have hp' := parser_quiet t (.ofInput tree.leaves ())
  obtain ⟨hsame, hlast⟩ := Tree.firstName_drop_eq (read_of_leads hl).1 hnames
  obtain ⟨twin, htwin, halike⟩ : ∃ twin,
      t.parser.Leads (.start t.parser (.ofInput tree.leaves ())) twin ∧ run.Alike twin := by
    rcases hf with rfl | ⟨before, token, state, hbefore, hs, he⟩
    · exact ⟨_, .refl, rfl, rfl, rfl⟩
    have hlt : before.context.feed.cursor < run.context.feed.cursor := by
      obtain ⟨-, r, below', -, hm⟩ := moved_of_step hs
      cases hm with
      | shift _ _ _ _ h =>
        subst h
        exact Nat.lt_succ_self _
      | reduce _ _ _ _ _ _ _ _ _ _ _ h =>
        rw [h] at he
        cases he
      | recover hb => exact absurd rfl hb
    obtain ⟨twin, htwin, halike⟩ := lockstep (p := t.parser) ht rfl hp hp' hbefore
      fun c hc => hsame c (Nat.lt_of_le_of_lt hc hlt)
    have hn : twin.context.feed.lookaheadName = before.context.feed.lookaheadName := by
      rw [hp'.lookaheadName_eq htwin, hp.lookaheadName_eq hbefore, halike.cursor]
      exact hsame _ hlt
    obtain ⟨next, hstep, hnext⟩ :=
      alike_step (p := t.parser) ht rfl hp hp' hbefore htwin halike hn hs
    exact ⟨next, htwin.tail hstep, hnext⟩
  rw [← hlast]
  exact action_of_twin ht hw htwin halike hq

private theorem Refused.mem_expected_iff (ht : Table.ofGrammar g = .ok t) (hg : g.Fertile)
    (h : Refused t ts run q) (name : String) : name ∈ t.expected q ↔
      g.Opens ((ts.take run.context.feed.cursor).map (·.name) ++ [name]) ∨
        name = endName ∧ g.Sentence ((ts.take run.context.feed.cursor).map (·.name)) := by
  have hfresh := h.fresh ht hg
  obtain ⟨hl, ⟨below, hq⟩, -⟩ := h
  rw [Table.mem_expected_iff]
  constructor
  · intro hne
    obtain ⟨act, ha⟩ := Option.ne_none_iff_exists'.1 hne
    obtain ⟨tree, rest, hw, hleaves, hfirst⟩ := exists_whole_of_action ht hg hl hq ha
    cases rest with
    | nil => exact .inr ⟨hfirst.symm, tree, hw, by rw [hleaves, List.append_nil]⟩
    | cons token rest =>
      have hfirst : token.name = name := hfirst
      refine .inl ⟨rest.map (·.name), tree, hw, ?_⟩
      rw [hleaves, List.map_append, List.map_cons, hfirst, List.append_assoc]
      rfl
  · rintro (⟨rest, hs⟩ | ⟨rfl, hs⟩)
    · rw [List.append_assoc] at hs
      exact hfresh.action ht hl hq hs
    · rw [← List.append_nil (List.map _ _)] at hs
      exact hfresh.action ht hl hq hs

private theorem Refused.not_mem_expected (h : Refused t ts run q) :
    run.context.feed.lookaheadName ∉ t.expected q :=
  fun hm => Table.mem_expected_iff.1 hm h.action

/-- If nothing edits the input, a run that fails has no action for its lookahead, unless a token has
the name of the end of the input and the run accepts the sentence in front of it. -/
theorem refused_or_left {υ : Type} {p : Parser υ} {context : Context υ}
    (ht : Table.ofGrammar g = .ok p.table) (hp : p.Quiet context) {fuel : Nat} {e : ParseError}
    {final : Run υ} (h : p.parse fuel context = (.error e, final)) :
    (p.Leads (.start p context) final ∧ ∃ q below, final.context.states = q :: below ∧
      p.table.action? q final.context.feed.lookaheadName = none ∧
      e = p.badInput final.context.feed q) ∨
    ∃ i place, e = .inputLeft i place ∧
      (∃ token, context.feed.input[i]? = some token ∧ token.name = endName) ∧
      g.Sentence ((context.feed.input.take i).map (·.name)) := by
  obtain ⟨last, hl, hc | ⟨e', after, hf, hc⟩ | ⟨after, hs, hc⟩⟩ :=
    p.loop_cases fuel (.start p context)
  · cases h.symm.trans hc
  · cases h.symm.trans hc
    obtain ⟨γ, hst⟩ := stacked_of_leads ht hl
    obtain ⟨rfl, q, below, hq, ⟨ha, rfl⟩ | ⟨next, ha, hlook⟩⟩ :=
      failed_of_step hp.hookless hf (not_structural_of_failed ht hst hf)
    · exact .inl ⟨hl, q, below, hq, ha, rfl⟩
    · rw [hq] at hst
      have hend : final.context.feed.lookaheadName = endName := by rw [Feed.lookaheadName, hlook]
      exact absurd hend (hst.shift_ne_end ht ha)
  · have hfin : p.finish after = (.error e, final) := hc.symm.trans h
    obtain ⟨γ, hst⟩ := stacked_of_leads ht hl
    obtain ⟨hle, hyield⟩ := yield_of_leads hp.careful hl
    rcases left_of_step hs with ⟨hlt, -⟩ | ⟨-, q, below, hq, ha, rfl⟩
    · omega
    · rw [hq] at hst
      obtain ⟨-, hname, k, children, hnodes⟩ := hst.accept ht ha
      have hd := hst.derived (.node g.start k children) (hnodes ▸ List.mem_cons_self)
      rw [hnodes, hp.input_eq hl] at hyield
      have hrecord : (last.record (.accepted q)).context = last.context := rfl
      rw [← hrecord] at hnodes hle
      rcases Nat.lt_or_eq_of_le hle with hlt | heq
      · rw [finish_of_lt hnodes hlt] at hfin
        cases hfin
        obtain ⟨token, hlook⟩ : ∃ token, last.context.feed.lookahead? = some token :=
          ⟨_, List.getElem?_eq_getElem hlt⟩
        refine .inr ⟨_, _, rfl, ⟨token, ?_, ?_⟩, _, ⟨hd, k, children, rfl⟩, ?_⟩
        · rw [← hp.input_eq hl]
          exact hlook
        · rw [← hname, Feed.lookaheadName, hlook]
        · rw [hrecord, ← hyield, List.reverse_singleton, Tree.leavesOfAll_singleton]
      · rw [finish_of_eq hnodes heq] at hfin
        cases hfin

private theorem refused_of_error (ht : Table.ofGrammar g = .ok t) {fuel : Nat} {e : ParseError}
    {final : Run Unit} (h : t.parser.parse fuel (.ofInput ts ()) = (.error e, final))
    (he : ∀ i place, e ≠ .inputLeft i place) :
    ∃ q, Refused t ts final q ∧ e = t.parser.badInput final.context.feed q := by
  rcases refused_or_left (p := t.parser) ht (parser_quiet t _) h with
    ⟨hl, q, below, hq, ha, rfl⟩ | ⟨i, place, rfl, -⟩
  · exact ⟨q, ⟨hl, ⟨below, hq⟩, ha⟩, rfl⟩
  · exact absurd rfl (he i place)

private theorem Refused.at_token (ht : Table.ofGrammar g = .ok t) (hg : g.Fertile)
    (h : Refused t ts run q) {token : Token}
    (hlook : run.context.feed.lookahead? = some token) :
    ts[run.context.feed.cursor]? = some token ∧
      g.Opens ((ts.take run.context.feed.cursor).map (·.name)) ∧
      ¬ g.Opens ((ts.take (run.context.feed.cursor + 1)).map (·.name)) := by
  have hi : run.context.feed.input = ts := (parser_quiet t _).input_eq h.leads
  have htoken : ts[run.context.feed.cursor]? = some token := by
    rw [← hi]
    exact hlook
  refine ⟨htoken, opens_of_leads ht hg h.leads, ?_⟩
  intro hopens
  rw [List.take_add_one, htoken, List.map_append] at hopens
  have hname : run.context.feed.lookaheadName = token.name := by rw [Feed.lookaheadName, hlook]
  apply h.not_mem_expected
  rw [hname]
  exact (h.mem_expected_iff ht hg token.name).2 (.inl hopens)

private theorem Refused.at_end (ht : Table.ofGrammar g = .ok t) (hg : g.Fertile)
    (h : Refused t ts run q) (hlook : run.context.feed.lookahead? = none) :
    run.context.feed.cursor = ts.length ∧ g.Opens (ts.map (·.name)) ∧
      ¬ g.Sentence (ts.map (·.name)) := by
  have hi : run.context.feed.input = ts := (parser_quiet t _).input_eq h.leads
  have hname : run.context.feed.lookaheadName = endName := by rw [Feed.lookaheadName, hlook]
  have hlen : run.context.feed.cursor = ts.length := by
    have hle := (read_of_leads h.leads).1
    rw [Feed.lookahead?, hi, List.getElem?_eq_none_iff] at hlook
    omega
  have hall : ts.take run.context.feed.cursor = ts := by rw [hlen, List.take_length]
  have hopens := opens_of_leads ht hg h.leads
  rw [hall] at hopens
  refine ⟨hlen, hopens, ?_⟩
  intro hs
  apply h.not_mem_expected
  rw [h.mem_expected_iff ht hg, hall]
  exact .inr ⟨hname, hs⟩

/-- Over the table of a grammar in which every reachable expression derives some tokens, and without
callbacks: if a token is unexpected, the tokens in front of it begin a sentence and do not with it,
and the expected names are those that go on with a sentence, and the end of the input if there is
one already. If the end is unexpected, the tokens begin a sentence and are none. In both cases the
run has just read the token in front, or none: nothing was reduced on the bad one. -/
theorem error_earliest (ht : Table.ofGrammar g = .ok t) (hg : g.Fertile) (ts : List Token)
    (fuel : Nat) (final : Run Unit) :
    (∀ i name position expected,
      t.parser.parse fuel (.ofInput ts ()) =
        (.error (.unexpectedToken i name position expected), final) →
      g.Opens ((ts.take i).map (·.name)) ∧ ¬ g.Opens ((ts.take (i + 1)).map (·.name)) ∧
        (∃ token, ts[i]? = some token ∧ token.name = name ∧ token.position = position) ∧
        (∀ next, next ∈ expected ↔ g.Opens ((ts.take i).map (·.name) ++ [next]) ∨
          next = endName ∧ g.Sentence ((ts.take i).map (·.name))) ∧
        t.parser.Fresh (.ofInput ts ()) final) ∧
    ∀ i place, t.parser.parse fuel (.ofInput ts ()) = (.error (.unexpectedEnd i place), final) →
      i = ts.length ∧ g.Opens (ts.map (·.name)) ∧ ¬ g.Sentence (ts.map (·.name)) ∧
        t.parser.Fresh (.ofInput ts ()) final := by
  constructor
  · intro i name position expected h
    obtain ⟨q, hr, he⟩ := refused_of_error ht h nofun
    unfold badInput at he
    cases hlook : final.context.feed.lookahead? with
    | none =>
      rw [hlook] at he
      cases he
    | some token =>
      rw [hlook] at he
      cases he
      obtain ⟨htoken, hopens, hnot⟩ := hr.at_token ht hg hlook
      exact ⟨hopens, hnot, ⟨token, htoken, rfl, rfl⟩, hr.mem_expected_iff ht hg, hr.fresh ht hg⟩
  · intro i place h
    obtain ⟨q, hr, he⟩ := refused_of_error ht h nofun
    unfold badInput at he
    cases hlook : final.context.feed.lookahead? with
    | some token =>
      rw [hlook] at he
      cases he
    | none =>
      rw [hlook] at he
      cases he
      obtain ⟨hlen, hopens, hnot⟩ := hr.at_end ht hg hlook
      exact ⟨hlen, hopens, hnot, hr.fresh ht hg⟩

/-- One error at a token and one at the end. -/
theorem error_earliest_pair : Table.ofGrammar pairGrammar = .ok pairTable ∧ pairGrammar.Fertile ∧
    (∃ final, pairTable.parser.parse 9
        (.ofInput [⟨"a", "a", .zero⟩, ⟨"a", "a", .zero⟩, ⟨"b", "b", .zero⟩] ()) =
          (.error (.unexpectedToken 1 "a" .zero ["b"]), final) ∧
      pairGrammar.Opens ["a"] ∧ ¬ pairGrammar.Opens ["a", "a"] ∧ pairGrammar.Opens ["a", "b"] ∧
      pairTable.parser.Fresh
        (.ofInput [⟨"a", "a", .zero⟩, ⟨"a", "a", .zero⟩, ⟨"b", "b", .zero⟩] ()) final) ∧
    ∃ final, pairTable.parser.parse 9 (.ofInput [⟨"a", "a", .zero⟩] ()) =
        (.error (.unexpectedEnd 1 (some .zero)), final) ∧
      pairGrammar.Opens ["a"] ∧ ¬ pairGrammar.Sentence ["a"] := by
  have hg := pairGrammar_fertile
  have htoken : pairTable.parser.parse 9
      (.ofInput [⟨"a", "a", .zero⟩, ⟨"a", "a", .zero⟩, ⟨"b", "b", .zero⟩] ()) =
        (.error (.unexpectedToken 1 "a" .zero ["b"]), _) := rfl
  have hend : pairTable.parser.parse 9 (.ofInput [⟨"a", "a", .zero⟩] ()) =
      (.error (.unexpectedEnd 1 (some .zero)), _) := rfl
  obtain ⟨hopens, hnot, -, hexpected, hfresh⟩ :=
    (error_earliest (g := pairGrammar) rfl hg _ _ _).1 _ _ _ _ htoken
  obtain ⟨-, -, hsentence, -⟩ := (error_earliest (g := pairGrammar) rfl hg _ _ _).2 _ _ hend
  refine ⟨rfl, hg, ⟨_, htoken, hopens, hnot, ?_, hfresh⟩, _, hend, hopens, hsentence⟩
  rcases (hexpected "b").1 List.mem_cons_self with hb | ⟨hb, -⟩
  · exact hb
  · exact absurd hb (by decide)

end Parser

end CanonicalLR
