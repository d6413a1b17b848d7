import CanonicalLR.Proofs.Halting

/-! What becomes of the tokens that a run reads. With any table and any callbacks they are the leaves
of the stack, in the order in which they were read and as they were then. -/
namespace CanonicalLR

namespace Tree

/-- The tokens of trees that wait on a stack, its top first: a leaf is taken off, and a node gives
way to its children. -/
def gather : List Tree → List Token
  | [] => []
  | leaf token :: rest => token :: gather rest
  | node _ _ children :: rest => gather (children ++ rest)
termination_by stack => countAll stack
decreasing_by
  · rw [countAll, count]
    omega
  · rw [countAll_append, countAll, count]
    omega

private theorem gather_eq (stack : List Tree) : gather stack = leavesOfAll stack := by
  fun_induction gather stack with
  | case1 => rfl
  | case2 token rest ih => rw [leavesOfAll, leaves, ih, List.singleton_append]
  | case3 name k children rest ih => rw [ih, leavesOfAll_append, leavesOfAll, leaves]

end Tree

namespace Parser

variable {υ : Type} {p : Parser υ} {context : Context υ} {run after : Run υ} {tokens : List Token}

/-- The token that the next step reads: where the table says to shift, the one at the cursor. -/
def reads? (p : Parser υ) (run : Run υ) : Option Token :=
  run.context.states.head?.bind fun q =>
    match p.table.action? q run.context.feed.lookaheadName with
    | some (.shift _) => run.context.feed.lookahead?
    | _ => none

/-- The run comes back to the head of the loop as another one, and the steps in between read the
tokens, in this order. -/
inductive Reading (p : Parser υ) (run : Run υ) : List Token → Run υ → Prop
  | refl : Reading p run [] run
  | tail {tokens : List Token} {mid after : Run υ} : Reading p run tokens mid →
      p.step mid = .next after → Reading p run (tokens ++ (p.reads? mid).toList) after

private theorem exists_reading (h : p.Leads run after) : ∃ tokens, p.Reading run tokens after := by
  induction h with
  | refl => exact ⟨[], .refl⟩
  | tail _ hs ih =>
    obtain ⟨tokens, hr⟩ := ih
    exact ⟨_, hr.tail hs⟩

/-- A step adds the token that it reads to the leaves of the stack, and no other. -/
theorem leaves_of_step (h : p.step run = .next after) :
    Tree.leavesOfAll after.context.nodes.reverse =
      Tree.leavesOfAll run.context.nodes.reverse ++ (p.reads? run).toList := by
  obtain ⟨-, q, below, hq, hm⟩ := moved_of_step h
  have hreads : p.reads? run = match p.table.action? q run.context.feed.lookaheadName with
      | some (.shift _) => run.context.feed.lookahead?
      | _ => none := by
    rw [reads?, hq]
    rfl
  cases hm with
  | shift token next ha hlook he =>
    have hname : run.context.feed.lookaheadName = token.name := by rw [Feed.lookaheadName, hlook]
    rw [hreads, hname, ha, hlook, he, List.reverse_cons, Tree.leavesOfAll_append]
    rfl
  | reduce expression k len exposed next rest ha _ _ _ hn =>
    rw [hreads, ha, hn, Tree.leavesOfAll_fold, Option.toList_none, List.append_nil]
  | recover _ _ hn _ _ ha =>
    rw [hreads, ha, hn, Option.toList_none, List.append_nil]

private theorem leaves_of_reading (h : p.Reading (.start p context) tokens run) :
    Tree.leavesOfAll run.context.nodes.reverse = tokens := by
  induction h with
  | refl => rfl
  | tail _ hs ih => rw [leaves_of_step hs, ih]

/-- If nothing edits the input, a tree that is returned has read all of it. -/
theorem Quiet.leaves_eq (hp : p.Quiet context) {fuel : Nat} {tree : Tree} {final : Run υ}
    (h : p.parse fuel context = (.tree tree, final)) : tree.leaves = context.feed.input := by
  obtain ⟨last, left, hl, hs, hf⟩ := tree_of_loop h
  obtain ⟨hle, hy⟩ := yield_of_leads hp.careful hl
  rw [← context_of_left hs] at hle hy
  cases hf with
  | tree _ _ hn hc =>
    rw [hn, hc, List.take_length, context_of_left hs, hp.input_eq hl] at hy
    rw [← hy, List.reverse_singleton, Tree.leavesOfAll_singleton]
  | late _ _ _ _ hlt => omega

/-- With any table, input, hook and reducer: if a tree is returned, then its leaves are the tokens
that the steps of the run have read, each as it stood at the cursor then, and no others. If there is
no hook and the reducer does not edit the input, they are the whole input. The leaves are also what
is found with a stack of trees that are still to be visited. -/
theorem leaves_read {fuel : Nat} {tree : Tree} {final : Run υ}
    (h : p.parse fuel context = (.tree tree, final)) :
    (∃ last left, p.Leads (.start p context) last ∧ p.step last = .left left ∧
      ∀ tokens, p.Reading (.start p context) tokens last ↔ tokens = tree.leaves) ∧
    (p.Quiet context → tree.leaves = context.feed.input) ∧
    Tree.gather [tree] = tree.leaves := by
  refine ⟨?_, fun hp => hp.leaves_eq h, by rw [Tree.gather_eq, Tree.leavesOfAll_singleton]⟩
  obtain ⟨last, left, hl, hs, hnodes, -⟩ := nodes_of_tree h
  have hleaves : ∀ {tokens}, p.Reading (.start p context) tokens last → tokens = tree.leaves := by
    intro tokens hr
    rw [← leaves_of_reading hr, hnodes, List.reverse_singleton, Tree.leavesOfAll_singleton]
  refine ⟨last, left, hl, hs, fun tokens => ⟨hleaves, ?_⟩⟩
  rintro rfl
  obtain ⟨tokens, hr⟩ := exists_reading hl
  rw [← hleaves hr]
  exact hr

/-- A parser for `pairGrammar` whose reducer puts another token in the place of the first. -/
def rewriting : Parser Unit where
  table := pairTable
  reducer := some fun context =>
    { context.feed with input := ⟨"x", "x", .zero⟩ :: context.feed.input.drop 1 }

/-- The leaves are what was shifted, although the input says something else in the end. -/
theorem leaves_read_rewriting : ∃ tree final last,
    rewriting.parse 9 (.ofInput [⟨"a", "a", .zero⟩, ⟨"b", "b", .zero⟩] ()) = (.tree tree, final) ∧
    final.context.feed.input = [⟨"x", "x", .zero⟩, ⟨"b", "b", .zero⟩] ∧
    rewriting.Reading
      (.start rewriting (.ofInput [⟨"a", "a", .zero⟩, ⟨"b", "b", .zero⟩] ()))
      [⟨"a", "a", .zero⟩, ⟨"b", "b", .zero⟩] last ∧
    ∃ tree final, pairTable.parser.parse 9
        (.ofInput [⟨"a", "a", .zero⟩, ⟨"b", "b", .zero⟩] ()) = (.tree tree, final) ∧
      tree.leaves = [⟨"a", "a", .zero⟩, ⟨"b", "b", .zero⟩] := by
  have hrewriting : rewriting.parse 9 (.ofInput [⟨"a", "a", .zero⟩, ⟨"b", "b", .zero⟩] ()) =
    (.tree (pairTree ⟨"a", "a", .zero⟩ ⟨"b", "b", .zero⟩), _) := rfl
  have hplain : pairTable.parser.parse 9
    (.ofInput [⟨"a", "a", .zero⟩, ⟨"b", "b", .zero⟩] ()) = (.tree _, _) := rfl
  obtain ⟨last, -, -, -, hreading⟩ := (leaves_read hrewriting).1
  exact ⟨_, _, last, hrewriting, rfl, (hreading _).2 rfl, _, _, hplain,
    (leaves_read hplain).2.1 (parser_quiet _ _)⟩

end Parser

end CanonicalLR
