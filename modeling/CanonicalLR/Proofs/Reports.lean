import CanonicalLR.Proofs.EarlyErrors
import CanonicalLR.Proofs.Recovery

/-! Reports of unexpected tokens, for any table and any callbacks. The names that are listed are
those of the state that had no action; the token is the one that stands at the cursor when the hook
has declined, which need not be the one that the state had no action for. -/
namespace CanonicalLR

namespace Parser

variable {υ : Type} {p : Parser υ} {context : Context υ} {run : Run υ}

/-- In the runs over a context, a hook that is asked and declines leaves the name of the lookahead as
it was. -/
def Upright (p : Parser υ) (context : Context υ) : Prop :=
  ∀ run hook feed, p.Leads (.start p context) run → p.Asks run → p.onBadInput = some hook →
    hook run.context = (false, feed) → feed.lookaheadName = run.context.feed.lookaheadName

/-- A hook that leaves the name of the lookahead alone if it declines, on whatever context it is
called. -/
theorem upright_of_hook
    (hb : ∀ hook, p.onBadInput = some hook → ∀ c : Context υ, (hook c).1 = false →
      (hook c).2.lookaheadName = c.feed.lookaheadName)
    (context : Context υ) : p.Upright context := by
  intro run hook feed _ _ hh hd
  have hlook := hb hook hh run.context (by rw [hd])
  rwa [hd] at hlook

variable {fuel i : Nat} {name : String} {position : Position} {expected : List String}

private theorem badInput_eq_unexpectedToken {feed : Feed υ} {q : Nat}
    (h : p.badInput feed q = .unexpectedToken i name position expected) :
    ∃ token, feed.lookahead? = some token ∧ i = feed.cursor ∧ name = token.name ∧
      position = token.position ∧ expected = p.table.expected q := by
  unfold badInput at h
  cases hl : feed.lookahead? with
  | none =>
    rw [hl] at h
    cases h
  | some token =>
    rw [hl] at h
    cases h
    exact ⟨token, rfl, rfl, rfl, rfl, rfl⟩

/-- A step that reports a token has refused its lookahead, and the report is about the feed that the
hook left, if there is one. -/
private theorem report_of_failing {after : Run υ} {q : Nat}
    (h : Failing p run q (.unexpectedToken i name position expected) after) :
    p.badInput after.context.feed q = .unexpectedToken i name position expected ∧
      p.table.action? q run.context.feed.lookaheadName = none ∧
      (p.onBadInput = none ∧ after = run ∨
        ∃ hook, p.onBadInput = some hook ∧ hook run.context = (false, after.context.feed)) := by
  generalize he : ParseError.unexpectedToken i name position expected = e at h
  cases h with
  | refused hb ha => exact ⟨rfl, ha, .inl ⟨hb, rfl⟩⟩
  | declined hook feed hb ha hd => exact ⟨rfl, ha, .inr ⟨hook, hb, hd⟩⟩
  | idle => cases he
  | exhausted => cases he
  | starved => cases he

private theorem finish_ne_unexpectedToken :
    (p.finish run).1 ≠ .error (.unexpectedToken i name position expected) := by
  unfold finish
  dsimp only
  split
  · split
    · simp
    · split
      · split
        · split <;> simp
        · split <;> simp
      · simp
  · simp

/-- If a run reports an unexpected token, it came to a state that had no action for its lookahead,
and the names listed are those that this state has an action for. The token reported is the one at
the cursor in the end: without a hook the refused one, else the one that stands there after the hook
has declined. If hooks that decline leave the name of the lookahead as it was, the state has no
action for the token reported, and its name is not listed. -/
theorem unexpectedToken_report {final : Run υ}
    (h : p.parse fuel context = (.error (.unexpectedToken i name position expected), final)) :
    ∃ last q below token, p.Leads (.start p context) last ∧ last.context.states = q :: below ∧
      p.table.action? q last.context.feed.lookaheadName = none ∧ expected = p.table.expected q ∧
      (p.onBadInput = none ∧ final = last ∨
        ∃ hook, p.onBadInput = some hook ∧ hook last.context = (false, final.context.feed)) ∧
      final.context.feed.lookahead? = some token ∧ i = final.context.feed.cursor ∧
      name = token.name ∧ position = token.position ∧
      (p.Upright context → p.table.action? q name = none ∧ name ∉ expected) := by
  obtain ⟨last, hl, hc | ⟨e, after, hf, hc⟩ | ⟨after, -, hc⟩⟩ :=
    p.loop_cases fuel (.start p context)
  · cases h.symm.trans hc
  · cases h.symm.trans hc
    obtain ⟨q, below, hq, hfail⟩ := failing_of_step hf id
    -- Both cases report what stands at the cursor; they differ in who moved it there.
    obtain ⟨he, ha, hwho⟩ := report_of_failing hfail
    obtain ⟨token, hlook, rfl, rfl, rfl, rfl⟩ := badInput_eq_unexpectedToken he
    have hname : final.context.feed.lookaheadName = token.name := by rw [Feed.lookaheadName, hlook]
    refine ⟨last, q, below, token, hl, hq, ha, rfl, hwho, hlook, rfl, rfl, rfl, fun hu => ?_⟩
    have hkept : final.context.feed.lookaheadName = last.context.feed.lookaheadName := by
      rcases hwho with ⟨-, rfl⟩ | ⟨hook, hb, hd⟩
      · rfl
      · exact hu last hook _ hl (.inr ⟨q, below, hq, ha⟩) hb hd
    rw [← hkept, hname] at ha
    exact ⟨ha, fun hmem => Table.mem_expected_iff.1 hmem ha⟩
  · have hfin : p.finish after = (.error (.unexpectedToken i name position expected), final) :=
      hc.symm.trans h
    exact absurd (congrArg Prod.fst hfin) finish_ne_unexpectedToken

/-- A parser whose hook counts the bad input that it declines. -/
def counting : Parser Nat where
  table := pairTable
  onBadInput := some fun context => (false, { context.feed with user := context.feed.user + 1 })

private theorem counting_upright (context : Context Nat) : counting.Upright context := by
  apply upright_of_hook
  intro hook hh c _
  cases hh
  rfl

/-- A hook that declines and changes only the user's value. -/
theorem unexpectedToken_report_counting : ∃ final, counting.parse 9
      (.ofInput [⟨"b", "b", .zero⟩, ⟨"a", "a", .zero⟩] 0) =
        (.error (.unexpectedToken 0 "b" .zero ["a"]), final) ∧
    ∃ q, ["a"] = pairTable.expected q ∧ pairTable.action? q "b" = none ∧ "b" ∉ ["a"] := by
  have h : counting.parse 9 (.ofInput [⟨"b", "b", .zero⟩, ⟨"a", "a", .zero⟩] 0) =
    (.error (.unexpectedToken 0 "b" .zero ["a"]), _) := rfl
  obtain ⟨-, q, -, -, -, -, -, hexpected, -, -, -, -, -, hreport⟩ := unexpectedToken_report h
  exact ⟨_, h, q, hexpected, hreport (counting_upright _)⟩

/-- A parser whose hook goes on to the next token and then declines. -/
def wandering : Parser Unit where
  table := pairTable
  onBadInput := some fun context => (false, { context.feed with cursor := context.feed.cursor + 1 })

/-- The token reported is among those expected, and the state has an action for it: the one that it
had no action for stands in front. -/
theorem expected_token_reported : ∃ last final q below,
    wandering.Leads (.start wandering (.ofInput [⟨"b", "b", .zero⟩, ⟨"a", "a", .zero⟩] ())) last ∧
    wandering.parse 9 (.ofInput [⟨"b", "b", .zero⟩, ⟨"a", "a", .zero⟩] ()) =
      (.error (.unexpectedToken 1 "a" .zero ["a"]), final) ∧ "a" ∈ ["a"] ∧
    last.context.states = q :: below ∧ pairTable.action? q "b" = none ∧
    pairTable.action? q "a" ≠ none := by
  refine ⟨_, _, 0, [], .refl, rfl, List.mem_cons_self, rfl, rfl, ?_⟩
  decide

end Parser

end CanonicalLR
