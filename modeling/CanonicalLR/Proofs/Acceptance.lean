import CanonicalLR.Proofs.Stack

/-! Where trees come from: a run that yields a tree has accepted it, or the hook has let it end
behind the end of the input. -/
namespace CanonicalLR

namespace Parser

variable {α υ : Type} {g : Grammar α} {p : Parser υ}

/-- If a run over the table of a grammar yields a tree, then the tree is the one node on the stack at
the step that leaves the loop. Either the run accepted, with the cursor at the end of the input, and
the tree is a node of the start expression; or it did not accept, the cursor was behind the end of the
input, and the hook, asked once more, said that the run shall go on. -/
theorem tree_origin (h : Table.ofGrammar g = .ok p.table) {context : Context υ} {fuel : Nat}
    {tree : Tree} {final : Run υ} (hp : p.parse fuel context = (.tree tree, final)) :
    ∃ last left, p.Leads (.start p context) last ∧ p.step last = .left left ∧
      last.context.nodes = [tree] ∧
      (last.context.feed.cursor = last.context.feed.input.length ∧
          (∃ q, .accepted q ∈ final.events) ∧ (∃ k children, tree = .node g.start k children) ∨
        last.context.feed.input.length < last.context.feed.cursor ∧
          (∀ q, .accepted q ∉ final.events) ∧
          ∃ hook, p.onBadInput = some hook ∧ (hook last.context).1 = true) := by
  obtain ⟨last, left, hl, hs, hf⟩ := tree_of_loop hp
  refine ⟨last, left, hl, hs, ?_⟩
  rcases left_of_step hs with ⟨hc, rfl⟩ | ⟨hc, q, below, hq, ha, rfl⟩
  · have hnot := not_accepted_of_leads hl
    cases hf with
    | tree _ _ hn he hev => omega
    | late _ hook _ hn _ hb hh hev => exact ⟨hn, .inr ⟨hc, by rwa [hev], hook, hb, hh⟩⟩
  · obtain ⟨γ, hst⟩ := stacked_of_leads h hl
    rw [hq] at hst
    obtain ⟨-, -, k, children, hnodes⟩ := hst.accept h ha
    cases hf with
    | tree _ _ hn he hev =>
      have hn : last.context.nodes = [tree] := hn
      have he : last.context.feed.cursor = last.context.feed.input.length := he
      refine ⟨hn, .inl ⟨he, ⟨q, hev ▸ List.mem_cons_self⟩, k, children, ?_⟩⟩
      rw [hn] at hnodes
      exact (List.cons.inj hnodes).1
    | late _ _ _ _ hlt =>
      have hlt : last.context.feed.input.length < last.context.feed.cursor := hlt
      omega

/-- The run over `a b` accepts. -/
theorem tree_origin_pair : ∃ tree final, Table.ofGrammar pairGrammar = .ok pairTable ∧
    parse { table := pairTable } 9 (.ofInput [⟨"a", "a", .zero⟩, ⟨"b", "b", .zero⟩] ()) =
      (.tree tree, final) ∧
    ∃ k children, tree = .node pairGrammar.start k children := by
  have hp : parse { table := pairTable } 9 (.ofInput [⟨"a", "a", .zero⟩, ⟨"b", "b", .zero⟩] ()) =
    (.tree _, _) := rfl
  refine ⟨_, _, rfl, hp, ?_⟩
  obtain ⟨-, -, -, -, -, ⟨-, -, htree⟩ | ⟨-, -, hook, hb, -⟩⟩ := tree_origin (g := pairGrammar) rfl hp
  · exact htree
  · cases hb

/-- A tree of an expression other than the start is returned, without acceptance. -/
theorem partial_tree_returned : ∃ final, Table.ofGrammar pairGrammar = .ok pairTable ∧
    overshooting.parse 9 (.ofInput [⟨"a", "a", .zero⟩, ⟨"b", "b", .zero⟩] ()) =
      (.tree (.node "A" 0 [.leaf ⟨"a", "a", .zero⟩]), final) ∧
    (∀ q, .accepted q ∉ final.events) ∧ "A" ≠ pairGrammar.start := by
  refine ⟨_, rfl, rfl, fun q hq => ?_, by decide⟩
  have hq : .accepted q ∈ [Event.reduced _ _, .shifted _ _] := hq
  simp at hq

end Parser

end CanonicalLR
