import Mathlib.Logic.Relation
import CanonicalLR.Proofs.Derivation

/-! Sentential forms: symbols are rewritten by rules step by step. What can come first in a string
derived from symbols is what stands first in one of the forms that they come to. -/
namespace CanonicalLR.AugmentedGrammar

/-- One step of a derivation: the right side of a rule takes the place of its nonterminal. -/
inductive Rewrites (g : AugmentedGrammar) : List Symbol → List Symbol → Prop
  | rule {rule : Production} (before after : List Symbol) : rule ∈ g.rules →
      Rewrites g (before ++ .nonterminal rule.left :: after) (before ++ (rule.right ++ after))

def Derives (g : AugmentedGrammar) : List Symbol → List Symbol → Prop :=
  Relation.ReflTransGen g.Rewrites

variable {g : AugmentedGrammar}

private theorem Derives.append_right {ss ts : List Symbol} (h : g.Derives ss ts)
    (rest : List Symbol) : g.Derives (ss ++ rest) (ts ++ rest) := by
  induction h with
  | refl => exact .refl
  | tail _ hstep ih =>
    apply ih.tail
    cases hstep with
    | rule before after hr =>
      have hrest := Rewrites.rule before (after ++ rest) hr
      simpa only [List.append_assoc, List.cons_append] using hrest

private theorem Derives.of_rule {rule : Production} (hr : rule ∈ g.rules) {rest ts : List Symbol}
    (h : g.Derives (rule.right ++ rest) ts) : g.Derives (.nonterminal rule.left :: rest) ts :=
  .head (.rule [] rest hr) h

/-- What can come first in a form could come first before the form was rewritten. -/
private theorem Rewrites.begins {ss ts : List Symbol} (h : g.Rewrites ss ts) {o : Option Nat}
    (ho : g.Begins ts o) : g.Begins ss o := by
  cases h with
  | rule before after hr =>
    rcases begins_append.1 ho with ⟨t, rfl, hb⟩ | ⟨he, hb⟩
    · exact hb.append_left _
    · apply he.append
      rcases begins_append.1 hb with ⟨t, rfl, hin⟩ | ⟨hin, hafter⟩
      · exact .inside hr hin
      · exact .past hr hin hafter

private theorem Derives.begins {ss ts : List Symbol} (h : g.Derives ss ts) {o : Option Nat}
    (ho : g.Begins ts o) : g.Begins ss o := by
  induction h using Relation.ReflTransGen.head_induction_on with
  | refl => exact ho
  | head hstep _ ih => exact hstep.begins ih

private theorem exists_derives_of_begins {ss : List Symbol} {o : Option Nat} (h : g.Begins ss o) :
    ∃ ts, g.Derives ss (o.elim [] fun t => .terminal t :: ts) := by
  induction h with
  | nil => exact ⟨[], .refl⟩
  | @terminal t rest => exact ⟨rest, .refl⟩
  | @inside rule t rest hr _ ih =>
    obtain ⟨ts, hd⟩ := ih
    exact ⟨ts ++ rest, .of_rule hr (hd.append_right rest)⟩
  | @past rule o rest hr _ _ ih ihrest =>
    obtain ⟨_, hd⟩ := ih
    obtain ⟨ts, hrest⟩ := ihrest
    exact ⟨ts, .of_rule hr ((hd.append_right rest).trans hrest)⟩

/-- Nothing can come first if and only if symbols derive the empty form. -/
theorem begins_none_iff {ss : List Symbol} : g.Begins ss none ↔ g.Derives ss [] := by
  constructor
  · intro h
    obtain ⟨_, hd⟩ := exists_derives_of_begins h
    exact hd
  · intro hd
    exact hd.begins .nil

/-- A terminal can come first if and only if symbols derive a form that it begins. -/
theorem begins_some_iff {ss : List Symbol} {t : Nat} :
    g.Begins ss (some t) ↔ ∃ ts, g.Derives ss (.terminal t :: ts) := by
  constructor
  · exact exists_derives_of_begins
  · rintro ⟨ts, hd⟩
    exact hd.begins .terminal

end CanonicalLR.AugmentedGrammar
