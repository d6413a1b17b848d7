import CanonicalLR.Proofs.Pattern.Groups
import CanonicalLR.Proofs.Tokenization

/-! Where the contents of tokens stand in the text. A rule whose pattern can be read by itself stays tied
to the current place, so its matches begin there and its tokens hold just what stands at their positions.
A pattern with parentheses that only fit together with those around it can get away: its token then
holds the end of what it covers. -/
namespace CanonicalLR

namespace Pattern

private theorem extends_push (code : Array Instr) (i : Instr) :
    code.toList <+: (code.push i).toList := by
  rw [Array.toList_push]
  exact List.prefix_append _ _

private theorem extends_repeat {f : Array Instr → Array Instr}
    (hf : ∀ code, code.toList <+: (f code).toList) (n : Nat) (code : Array Instr) :
    code.toList <+: (Nat.repeat f n code).toList := by
  induction n with
  | zero => exact List.prefix_rfl
  | succ n ih => exact ih.trans (hf _)

private theorem emit_extends (p : Pattern) (code : Array Instr) :
    code.toList <+: (p.emit code).toList := by
  induction p generalizing code with
  | nothing => exact List.prefix_rfl
  | literal text =>
    induction text generalizing code with
    | nil => exact List.prefix_rfl
    | cons c text ih => exact (extends_push code _).trans (ih _)
  | oneOf set => exact extends_push code _
  | anchor a => exact extends_push code _
  | capture index body ih => exact ih code
  | seq a b iha ihb => exact (iha code).trans (ihb _)
  | choice a b iha ihb =>
    exact (extends_push code _).trans ((iha _).trans ((extends_push _ _).trans (ihb _)))
  | iterate body least most greedy ih =>
    have hoptional : ∀ (exit : Nat) (code : Array Instr), code.toList <+:
        (body.emit (code.push (branch greedy (code.size + 1) exit))).toList :=
      fun exit code => (extends_push code _).trans (ih _)
    cases most with
    | some m =>
      rw [emit]
      exact (extends_repeat ih least code).trans (extends_repeat (hoptional _) _ _)
    | none =>
      cases least with
      | zero => exact (extends_push code _).trans ((ih _).trans (extends_push _ _))
      | succ n => exact (extends_repeat ih (n + 1) code).trans (extends_push _ _)

namespace Program

variable {prog : Program}

/-- No match begins behind the start of a text. -/
def Anchored (prog : Program) : Prop :=
  ∀ c text, prog.matchAt (some c) text = none

private theorem follow_nil (before after : Option Char) (fuel : Nat) (seen : NatSet)
    (waiting : List (CharSet × Nat)) :
    prog.follow before after fuel [] seen waiting = ⟨waiting.reverse, false⟩ := by
  cases fuel <;> rfl

private theorem anchored_of_check {next : Nat}
    (h : prog.instrs[0]? = some (.check .textStart next)) : prog.Anchored := by
  have hfront : ∀ c after, prog.front (some c) after [0] = ⟨[], false⟩ := by
    intro c after
    simp [front, follow, h, NatSet.contains, Anchor.holds, follow_nil]
  intro c text
  cases text with
  | nil => simp [matchAt, run, hfront]
  | cons d text => simp [matchAt, run, hfront]

private theorem Anchored.find (h : prog.Anchored) {text : List Char} {found : Match}
    (hf : prog.find text = some found) : found.skipped = [] := by
  have hbehind : prog.searchBehind text = none := by
    clear hf
    induction text with
    | nil => rfl
    | cons c text ih => rw [searchBehind, h c text, ih]; rfl
  rw [Program.find, hbehind, ite_self] at hf
  split at hf
  · cases hf
    rfl
  · cases hf

end Program

/-- A program whose pattern begins with the anchor of the start begins by checking it. -/
theorem Tied.anchored {p : Pattern} {prog : Program} (hp : p.Tied) (h : p.program? = some prog) :
    prog.Anchored := by
  have hcode : [Instr.check .textStart 1] <+: (p.emit #[]).toList := by
    rcases hp with rfl | ⟨rest, rfl⟩
    · exact List.prefix_rfl
    · exact emit_extends rest #[.check .textStart 1]
  rw [program?] at h
  split at h
  · cases h
    obtain ⟨more, hmore⟩ := hcode.trans (extends_push _ .accept)
    have hcheck : ((p.emit #[]).push .accept)[0]? = some (.check .textStart 1) := by
      rw [← Array.getElem?_toList, ← hmore]
      rfl
    exact Program.anchored_of_check hcheck
  · cases h

end Pattern

namespace LexRule

/-- The pattern is one by itself, without the group that it is put into. -/
def Standalone (rule : LexRule) : Prop :=
  ∃ p, Pattern.read { ignoreCase := rule.ignoreCase } rule.pattern = .ok p

/-- No match of the tied pattern begins behind the start of a text. -/
def Anchored (rule : LexRule) : Prop :=
  ∀ prog, Pattern.compile { ignoreCase := rule.ignoreCase } rule.tiedPattern = .ok prog →
    prog.Anchored

private theorem Standalone.anchored {rule : LexRule} (h : rule.Standalone) : rule.Anchored := by
  intro prog hprog
  obtain ⟨p, hp⟩ := h
  obtain ⟨q, hq, hprog⟩ := except_bind_ok hprog
  refine (Pattern.read_tied hp hq).anchored ?_
  split at hprog
  · cases hprog
    assumption
  · cases hprog

end LexRule

namespace Text

def slice (text : String) (index length : Nat) : List UInt8 :=
  ((bytes text).drop index).take length

end Text

namespace Lexer

private theorem Claims.exists_program {rules : List LexRule} {lexer : Lexer}
    (h : ofRules rules = .ok lexer) {text : List Char} {rule : LexRule} {found : Pattern.Match}
    (hc : lexer.Claims text rule found) :
    rule ∈ rules ∧ ∃ prog, Pattern.compile { ignoreCase := rule.ignoreCase } rule.tiedPattern =
      .ok prog ∧ prog.find text = some found := by
  obtain ⟨earlier, r, later, hrules, -, rfl, hfound⟩ := hc
  have hr : r ∈ lexer.rules := by simp [hrules]
  obtain ⟨hmem, prog, hprog, hfind⟩ := Lexer.exists_program h hr
  exact ⟨hmem, prog, hprog, hfind ▸ hfound⟩

private theorem bytes_content (lines : LineStarts) (s : Segment) :
    Text.bytes (s.token lines).content = s.found.taken.flatMap String.utf8EncodeChar := by
  rw [Text.bytes_eq, Segment.token, String.toList_ofList]

private theorem tokens_eq_map {lexer : Lexer} {text : String} {tokens : List Token}
    (hnone : ∀ s ∈ (lexer.scan text.toList).segments, s.rule.action = none)
    (ht : lexer.tokenize text = .ok tokens) :
    tokens = (lexer.scan text.toList).emitted.map (Segment.token (.ofText text.toList)) := by
  have hemitted : ∀ s ∈ (lexer.scan text.toList).emitted, s.rule.action = none := fun s hs =>
    hnone s (List.mem_of_mem_filter hs)
  simp only [tokenize, foldl_emit [] hemitted, List.nil_append] at ht
  split at ht <;> cases ht
  rfl

/-- The bytes of a segment are those at the extent of its token. -/
theorem Tiles.slice {lexer : Lexer} {text : String} {before after : List Segment} {s : Segment}
    {rest : List Char} (h : lexer.Tiles 0 text.toList (before ++ s :: after) rest) :
    s.start + Text.byteLength s.text ≤ (Text.bytes text).length ∧
      Text.slice text s.start (Text.byteLength s.text) = s.text.flatMap String.utf8EncodeChar := by
  have hstart := (h.each rfl).1
  have hbytes : Text.bytes text =
      (before.flatMap Segment.text).flatMap String.utf8EncodeChar ++
        (s.text.flatMap String.utf8EncodeChar ++
          (after.flatMap Segment.text ++ rest).flatMap String.utf8EncodeChar) := by
    rw [Text.bytes_eq, h.cover]
    simp [List.flatMap_append]
  rw [Nat.zero_add] at hstart
  rw [hstart, Text.slice, hbytes, Text.byteLength_eq, Text.byteLength_eq]
  constructor
  · simp only [List.length_append]
    omega
  · rw [List.drop_left, List.take_left]

/-- Every token of rules without actions holds the end of what stands at its position, and all of it if
its rule is anchored. A rule is anchored if its pattern is one by itself. -/
theorem content_at_position {rules : List LexRule} {lexer : Lexer} {text : String}
    {tokens : List Token} (h : ofRules rules = .ok lexer)
    (hactions : ∀ rule ∈ rules, rule.action = none) (ht : lexer.tokenize text = .ok tokens) :
    (∀ rule ∈ rules, rule.Standalone → rule.Anchored) ∧
      ∀ token ∈ tokens, ∃ rule ∈ rules, token.name = rule.name ∧ token.content ≠ "" ∧
        token.position.index + token.position.length ≤ (Text.bytes text).length ∧
        Text.bytes token.content <:+
          Text.slice text token.position.index token.position.length ∧
        (rule.Anchored → Text.bytes token.content =
          Text.slice text token.position.index token.position.length) := by
  refine ⟨fun rule _ => LexRule.Standalone.anchored, fun token htoken => ?_⟩
  obtain ⟨rest, htiles, -⟩ :=
    scanFrom_spec (truthful_of_ofRules h) text.toList.length 0 text.toList (Nat.le_refl _)
  have hrule : ∀ s ∈ (lexer.scan text.toList).segments, s.rule ∈ rules := by
    intro s hs
    obtain ⟨before, after, hsplit⟩ := List.append_of_mem hs
    exact ((htiles.each hsplit).2.2.exists_program h).1
  rw [tokens_eq_map (fun s hs => hactions _ (hrule s hs)) ht] at htoken
  obtain ⟨s, hs, rfl⟩ := List.mem_map.1 htoken
  obtain ⟨before, after, hsplit⟩ := List.append_of_mem (List.mem_of_mem_filter hs)
  obtain ⟨-, htaken, hclaims⟩ := htiles.each hsplit
  obtain ⟨hmem, prog, hprog, hfound⟩ := hclaims.exists_program h
  obtain ⟨hname, hindex, hlength, hcontent, -⟩ := token_of_segment (.ofText text.toList) htaken
  obtain ⟨hinside, hslice⟩ := Tiles.slice (hsplit ▸ htiles)
  rw [hindex, hlength, hslice, bytes_content]
  refine ⟨s.rule, hmem, hname, hcontent, hinside, ?_, fun hanchored => ?_⟩
  · rw [Segment.text, List.flatMap_append]
    exact List.suffix_append _ _
  · rw [Segment.text, (hanchored prog hprog).find hfound, List.nil_append]

/-- Words of either case, one of which has a name of its own, and spaces. -/
def keywordRules : List LexRule :=
  [{ name := "if", pattern := "(?i)if|(?-i:fi)" }, { name := "word", pattern := "[^ ]+" },
    { name := "space", pattern := " +", skip := true }]

/-- Keywords and words, one of them with a character of two bytes. -/
theorem content_at_position_keywords :
    ∃ lexer tokens, ofRules keywordRules = .ok lexer ∧
      (∀ rule ∈ keywordRules, rule.action = none ∧ rule.Standalone) ∧
      lexer.tokenize "If é" = .ok tokens ∧
      tokens = [⟨"if", "If", ⟨0, 1, 1, 2⟩⟩, ⟨"word", "é", ⟨3, 1, 4, 2⟩⟩] ∧
      ∀ token ∈ tokens, Text.bytes token.content =
        Text.slice "If é" token.position.index token.position.length := by
  obtain ⟨lexer, hlexer, htokens⟩ : ∃ lexer, ofRules keywordRules = .ok lexer ∧
      lexer.tokenize "If é" = .ok [⟨"if", "If", ⟨0, 1, 1, 2⟩⟩, ⟨"word", "é", ⟨3, 1, 4, 2⟩⟩] :=
    ⟨_, rfl, rfl⟩
  have hrules : ∀ rule ∈ keywordRules, rule.action = none ∧ rule.Standalone := by
    simp only [keywordRules, List.forall_mem_cons]
    exact ⟨⟨trivial, _, rfl⟩, ⟨trivial, _, rfl⟩, ⟨trivial, _, rfl⟩, by simp⟩
  obtain ⟨hanchored, hcontent⟩ :=
    content_at_position hlexer (fun rule hrule => (hrules rule hrule).1) htokens
  refine ⟨lexer, _, hlexer, hrules, htokens, rfl, fun token htoken => ?_⟩
  obtain ⟨rule, hrule, -, -, -, -, hexact⟩ := hcontent token htoken
  exact hexact (hanchored rule hrule (hrules rule hrule).2)

/-- A pattern that ends the group around it early, so that its second branch is searched for in all that
is left: the token of `xb` holds `b` only. -/
theorem content_beside_position :
    ¬∀ (rules : List LexRule) (lexer : Lexer) (text : String) (tokens : List Token),
      ofRules rules = .ok lexer → (∀ rule ∈ rules, rule.action = none) →
      lexer.tokenize text = .ok tokens → ∀ token ∈ tokens, Text.bytes token.content =
        Text.slice text token.position.index token.position.length := by
  intro hall
  obtain ⟨lexer, hlexer, htokens⟩ : ∃ lexer,
      ofRules [{ name := "t", pattern := "a)|(?:b" }] = .ok lexer ∧
        lexer.tokenize "xb" = .ok [⟨"t", "b", ⟨0, 1, 1, 2⟩⟩] := ⟨_, rfl, rfl⟩
  have hcontent := hall _ lexer "xb" _ hlexer (by simp) htokens _ List.mem_cons_self
  exact absurd hcontent (by decide)

end Lexer

end CanonicalLR
