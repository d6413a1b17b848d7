import CanonicalLR.Lexer
import CanonicalLR.Proofs.Numbering
import CanonicalLR.Proofs.Positions

/-! What the tokenizer does with a text, whatever its rules search for and whatever their actions do:
the scan cuts the text into segments, each of which belongs to the first rule that matches where it
starts, and the tokens of the segments go through the queue in order. -/
namespace CanonicalLR

namespace Text

/-- The length of a text is the number of its bytes. -/
theorem byteLength_eq (text : List Char) :
    byteLength text = (text.flatMap String.utf8EncodeChar).length := by
  have hfrom : ∀ n, text.foldl (fun n c => n + c.utf8Size) n =
      n + (text.flatMap String.utf8EncodeChar).length := by
    induction text with
    | nil => exact fun n => rfl
    | cons c text ih =>
      intro n
      rw [List.foldl_cons, ih, List.flatMap_cons, List.length_append, String.length_utf8EncodeChar,
        Nat.add_assoc]
  rw [byteLength, hfrom, Nat.zero_add]

private theorem byteLength_append (a b : List Char) :
    byteLength (a ++ b) = byteLength a + byteLength b := by
  rw [byteLength_eq, byteLength_eq, byteLength_eq, List.flatMap_append, List.length_append]

end Text

namespace Pattern.Program

private theorem searchBehind_stands {prog : Program} {text : List Char} {found : Match}
    (h : prog.searchBehind text = some found) : found.skipped ++ found.taken <+: text := by
  induction text generalizing found with
  | nil => cases h
  | cons c text ih =>
    rw [searchBehind] at h
    split at h
    · cases h
      exact List.cons_prefix_cons.2 ⟨rfl, List.take_prefix _ _⟩
    · obtain ⟨later, hlater, rfl⟩ := Option.map_eq_some_iff.1 h
      exact List.cons_prefix_cons.2 ⟨rfl, ih hlater⟩

/-- What a program finds in a text stands there. -/
theorem find_stands {prog : Program} {text : List Char} {found : Match}
    (h : prog.find text = some found) : found.skipped ++ found.taken <+: text := by
  rw [find] at h
  split at h
  · cases h
    exact List.take_prefix _ _
  · split at h
    · cases h
    · exact searchBehind_stands h

end Pattern.Program

namespace Lexer

/-- The rule is the first in order whose search of the text finds something, and this is found. -/
def Claims (lexer : Lexer) (text : List Char) (rule : LexRule) (found : Pattern.Match) : Prop :=
  ∃ earlier r later, lexer.rules = earlier ++ r :: later ∧ (∀ e ∈ earlier, e.find text = none) ∧
    r.rule = rule ∧ r.find text = some found

/-- What a rule finds in a text stands there: first what it passes over, then what it reads. -/
def Truthful (lexer : Lexer) : Prop :=
  ∀ r ∈ lexer.rules, ∀ text found, r.find text = some found →
    found.skipped ++ found.taken <+: text

/-- The segments stand one behind the other at the start of a text that has the given offset, and
`rest` is behind them. None is empty, and each belongs to the rule that claims the text there. -/
structure Tiles (lexer : Lexer) (offset : Nat) (text : List Char) (segments : List Segment)
    (rest : List Char) : Prop where
  cover : text = segments.flatMap Segment.text ++ rest
  each {before after : List Segment} {s : Segment} : segments = before ++ s :: after →
    s.start = offset + Text.byteLength (before.flatMap Segment.text) ∧ s.found.taken ≠ [] ∧
      lexer.Claims (s.text ++ after.flatMap Segment.text ++ rest) s.rule s.found

/-- Scanning and editing the queue in turn: each round takes a segment off the text and, unless its rule
skips it, puts its token through the queue. -/
def rounds (lexer : Lexer) (lines : LineStarts) :
    Nat → Nat → List Char → List Token → Except LexError (List Token)
  | _, _, [], queue => .ok queue
  | 0, offset, _ :: _, _ => .error (.noMatch (lines.position offset 0))
  | fuel + 1, offset, text@(_ :: _), queue => match lexer.firstMatch text with
    | none => .error (.noMatch (lines.position offset 0))
    | some (rule, found) =>
      if found.taken.isEmpty then .error (.emptyMatch rule.name rule.pattern)
      else
        let s : Segment := ⟨rule, offset, found⟩
        lexer.rounds lines fuel (offset + Text.byteLength s.text) (text.drop s.text.length)
          (if rule.skip then queue else (rule.action.getD id) (queue ++ [s.token lines]))

/-- Why no segment begins at `rest`, which stands at the given offset. -/
inductive Stops (lexer : Lexer) (offset : Nat) (rest : List Char) : ScanEnd → Prop
  | finished : rest = [] → Stops lexer offset rest .finished
  | stuck : rest ≠ [] → (∀ r ∈ lexer.rules, r.find rest = none) →
      Stops lexer offset rest (.stuck offset)
  | empty {rule : LexRule} {found : Pattern.Match} : rest ≠ [] → lexer.Claims rest rule found →
      found.taken = [] → Stops lexer offset rest (.empty rule)

variable {lexer : Lexer}

private theorem firstMatch_eq_none_iff {text : List Char} :
    lexer.firstMatch text = none ↔ ∀ r ∈ lexer.rules, r.find text = none := by
  simp [firstMatch]

private theorem firstMatch_eq_some_iff {text : List Char} {rule : LexRule} {found : Pattern.Match} :
    lexer.firstMatch text = some (rule, found) ↔ lexer.Claims text rule found := by
  unfold firstMatch Claims
  rw [List.findSome?_eq_some_iff]
  constructor
  · rintro ⟨earlier, r, later, hrules, hr, hearlier⟩
    obtain ⟨m, hm, he⟩ := Option.map_eq_some_iff.1 hr
    cases he
    exact ⟨earlier, r, later, hrules, fun e he => Option.map_eq_none_iff.1 (hearlier e he), rfl,
      hm⟩
  · rintro ⟨earlier, r, later, hrules, hearlier, rfl, hr⟩
    refine ⟨earlier, r, later, hrules, by rw [hr]; rfl, fun e he => ?_⟩
    rw [hearlier e he, Option.map_none]

private theorem Claims.stands (h : lexer.Truthful) {text : List Char} {rule : LexRule}
    {found : Pattern.Match} (hc : lexer.Claims text rule found) :
    found.skipped ++ found.taken <+: text := by
  obtain ⟨earlier, r, later, hrules, -, -, hr⟩ := hc
  exact h r (by simp [hrules]) text found hr

private theorem tiles_nil (offset : Nat) (text : List Char) : lexer.Tiles offset text [] text := by
  refine ⟨rfl, fun h => ?_⟩
  simp at h

private theorem Tiles.cons {s : Segment} {text rest : List Char} {segments : List Segment}
    (h : lexer.Tiles (s.start + Text.byteLength s.text) text segments rest)
    (hs : s.found.taken ≠ []) (hc : lexer.Claims (s.text ++ text) s.rule s.found) :
    lexer.Tiles s.start (s.text ++ text) (s :: segments) rest := by
  refine ⟨?_, @fun before after t ht => ?_⟩
  · rw [List.flatMap_cons, List.append_assoc, ← h.cover]
  · cases before with
    | nil =>
      cases ht
      refine ⟨rfl, hs, ?_⟩
      rw [List.append_assoc, ← h.cover]
      exact hc
    | cons s' before =>
      cases ht
      obtain ⟨hstart, htaken, hclaims⟩ := h.each rfl
      refine ⟨?_, htaken, hclaims⟩
      rw [hstart, List.flatMap_cons, Text.byteLength_append, Nat.add_assoc]

/-- As many rounds as there are characters suffice to come to where no segment begins. -/
theorem scanFrom_spec (h : lexer.Truthful) (fuel offset : Nat) (text : List Char)
    (hf : text.length ≤ fuel) :
    ∃ rest, lexer.Tiles offset text (lexer.scanFrom fuel offset text).segments rest ∧
      lexer.Stops (offset + Text.byteLength
        ((lexer.scanFrom fuel offset text).segments.flatMap Segment.text)) rest
        (lexer.scanFrom fuel offset text).stop := by
  induction fuel generalizing offset text with
  | zero =>
    cases List.eq_nil_of_length_eq_zero (Nat.le_zero.1 hf)
    exact ⟨[], tiles_nil offset [], .finished rfl⟩
  | succ fuel ih =>
    cases text with
    | nil => exact ⟨[], tiles_nil offset [], .finished rfl⟩
    | cons c text =>
      rw [scanFrom]
      cases hmatch : lexer.firstMatch (c :: text) with
      | none =>
        refine ⟨c :: text, tiles_nil offset _, .stuck (by simp) ?_⟩
        exact firstMatch_eq_none_iff.1 hmatch
      | some claim =>
        obtain ⟨rule, found⟩ := claim
        have hclaims := firstMatch_eq_some_iff.1 hmatch
        by_cases htaken : found.taken = []
        · simp only [htaken, List.isEmpty_nil, if_true]
          exact ⟨c :: text, tiles_nil offset _, .empty (by simp) hclaims htaken⟩
        · obtain ⟨later, hlater⟩ := hclaims.stands h
          let s : Segment := ⟨rule, offset, found⟩
          have htext : c :: text = s.text ++ later := hlater.symm
          have hshort : later.length ≤ fuel := by
            have hpos : 0 < found.taken.length := List.length_pos_iff.2 htaken
            have hlength := congrArg List.length hlater
            simp only [List.length_append, List.length_cons] at hlength hf
            omega
          obtain ⟨rest, htiles, hstops⟩ := ih (s.start + Text.byteLength s.text) later hshort
          have hdrop : (c :: text).drop s.text.length = later := by
            rw [htext, List.drop_left]
          have hempty : found.taken.isEmpty = false := by simpa using htaken
          simp only [hempty, Bool.false_eq_true, if_false]
          rw [show (⟨rule, offset, found⟩ : Segment) = s from rfl, hdrop]
          refine ⟨rest, htext ▸ htiles.cons htaken (htext ▸ hclaims), ?_⟩
          rw [List.flatMap_cons, Text.byteLength_append, ← Nat.add_assoc]
          exact hstops

/-- A segment emits a token of its rule, with the extent of the segment as its place; its content is
the end of the segment and not empty. -/
theorem token_of_segment (lines : LineStarts) {s : Segment} (hs : s.found.taken ≠ []) :
    (s.token lines).name = s.rule.name ∧ (s.token lines).position.index = s.start ∧
      (s.token lines).position.length = Text.byteLength s.text ∧
      (s.token lines).content ≠ "" ∧ (s.token lines).content.toList <:+ s.text := by
  refine ⟨rfl, rfl, rfl, ?_, ?_⟩
  · intro hempty
    refine hs ?_
    have := congrArg String.toList hempty
    simpa [Segment.token] using this
  · rw [Segment.token, String.toList_ofList]
    exact List.suffix_append _ _

private theorem emit_eq (lines : LineStarts) (queue : List Token) (s : Segment) :
    s.emit lines queue = (s.rule.action.getD id) (queue ++ [s.token lines]) := by
  rw [Segment.emit]
  cases s.rule.action <;> rfl

/-- Without actions the tokens of the segments stand in the queue in order. -/
theorem foldl_emit {lines : LineStarts} {segments : List Segment} (queue : List Token)
    (h : ∀ s ∈ segments, s.rule.action = none) :
    segments.foldl (Segment.emit lines) queue = queue ++ segments.map (Segment.token lines) := by
  induction segments generalizing queue with
  | nil => simp
  | cons s segments ih =>
    have hs := h s List.mem_cons_self
    rw [List.foldl_cons, ih _ fun r hr => h r (List.mem_cons_of_mem _ hr)]
    simp [emit_eq, hs]

/-- The scan does not depend on what actions do, so it may as well be done first. -/
theorem rounds_eq (lines : LineStarts) (fuel offset : Nat) (text : List Char)
    (queue : List Token) :
    lexer.rounds lines fuel offset text queue =
      match (lexer.scanFrom fuel offset text).stop with
      | .finished =>
        .ok ((lexer.scanFrom fuel offset text).emitted.foldl (Segment.emit lines) queue)
      | .stuck offset => .error (.noMatch (lines.position offset 0))
      | .empty rule => .error (.emptyMatch rule.name rule.pattern) := by
  induction fuel generalizing offset text queue with
  | zero => cases text <;> rfl
  | succ fuel ih =>
    cases text with
    | nil => rfl
    | cons c text =>
      rw [rounds, scanFrom]
      cases lexer.firstMatch (c :: text) with
      | none => rfl
      | some claim =>
        obtain ⟨rule, found⟩ := claim
        cases hempty : found.taken.isEmpty with
        | true => simp only [hempty, if_true]
        | false =>
          simp only [hempty, Bool.false_eq_true, if_false, ih]
          cases hskip : rule.skip <;> simp [Scan.emitted, hskip, emit_eq]

/-- The tokenizer cuts a text into segments and lets actions edit the queue only. The segments tile the
text from its start up to a rest; each emits, unless its rule skips it, a token of its own. The result is
the queue after the tokens were pushed and the actions of their rules run, one after the other, if
nothing is left; else it is the error of the place where the rest begins, at which no rule matches or
the one that does reads nothing. Running each action as soon as its token is there comes to the same. -/
theorem tokenize_tiles (lexer : Lexer) (h : lexer.Truthful) (text : String) :
    lexer.tokenize text =
      lexer.rounds (.ofText text.toList) text.toList.length 0 text.toList [] ∧
    ∃ segments rest, lexer.Tiles 0 text.toList segments rest ∧
      (∀ s ∈ segments, ∀ token, token = s.token (.ofText text.toList) →
        token.name = s.rule.name ∧ token.position.index = s.start ∧
        token.position.length = Text.byteLength s.text ∧ token.content ≠ "" ∧
        token.content.toList <:+ s.text) ∧
      (∀ tokens, lexer.tokenize text = .ok tokens ↔ rest = [] ∧
        tokens = (segments.filter (!·.rule.skip)).foldl (fun queue s =>
          (s.rule.action.getD id) (queue ++ [s.token (.ofText text.toList)])) []) ∧
      ∀ e, lexer.tokenize text = .error e ↔ rest ≠ [] ∧
        ((∀ r ∈ lexer.rules, r.find rest = none) ∧
            e = .noMatch ((LineStarts.ofText text.toList).position
              (Text.byteLength (segments.flatMap Segment.text)) 0) ∨
          ∃ rule found, lexer.Claims rest rule found ∧ found.taken = [] ∧
            e = .emptyMatch rule.name rule.pattern) := by
  refine ⟨(rounds_eq _ _ _ _ _).symm, ?_⟩
  obtain ⟨rest, htiles, hstops⟩ :=
    scanFrom_spec h text.toList.length 0 text.toList (Nat.le_refl _)
  have hemit : Segment.emit (.ofText text.toList) = fun queue s =>
      (s.rule.action.getD id) (queue ++ [s.token (.ofText text.toList)]) := by
    funext queue s
    exact emit_eq _ queue s
  refine ⟨_, rest, htiles, ?_, ?_⟩
  · rintro s hs _ rfl
    obtain ⟨before, after, hsplit⟩ := List.append_of_mem hs
    exact token_of_segment _ (htiles.each hsplit).2.1
  · rw [Nat.zero_add] at hstops
    simp only [tokenize, Scan.emitted, scan, hemit]
    generalize (lexer.scanFrom text.toList.length 0 text.toList).stop = stop at hstops
    cases hstops with
    | finished hrest => simp [hrest, eq_comm]
    | stuck hrest hnone =>
      refine ⟨by simp [hrest], fun e => ⟨?_, ?_⟩⟩
      · rintro ⟨⟩
        exact ⟨hrest, .inl ⟨hnone, rfl⟩⟩
      · rintro ⟨-, ⟨-, rfl⟩ | ⟨rule, found, hc, -, -⟩⟩
        · rfl
        · rw [← firstMatch_eq_some_iff, firstMatch_eq_none_iff.2 hnone] at hc
          cases hc
    | empty hrest hc htaken =>
      refine ⟨by simp [hrest], fun e => ⟨?_, ?_⟩⟩
      · rintro ⟨⟩
        exact ⟨hrest, .inr ⟨_, _, hc, htaken, rfl⟩⟩
      · rw [← firstMatch_eq_some_iff] at hc
        rintro ⟨-, ⟨hnone, -⟩ | ⟨rule, found, hc', -, rfl⟩⟩
        · rw [firstMatch_eq_none_iff.2 hnone] at hc
          cases hc
        · rw [← firstMatch_eq_some_iff, hc] at hc'
          cases hc'
          rfl

/-- The rules of a lexer search for what their tied patterns say. -/
theorem exists_program {rules : List LexRule} {lexer : Lexer} (h : ofRules rules = .ok lexer)
    {r : CompiledRule} (hr : r ∈ lexer.rules) :
    r.rule ∈ rules ∧ ∃ prog, Pattern.compile { ignoreCase := r.rule.ignoreCase }
      r.rule.tiedPattern = .ok prog ∧ r.find = prog.find := by
  obtain ⟨compiled, hcompiled, hlexer⟩ := except_bind_ok h
  cases hlexer
  clear h
  induction rules generalizing compiled with
  | nil =>
    cases hcompiled
    cases hr
  | cons rule rules ih =>
    rw [List.mapM_cons] at hcompiled
    obtain ⟨first, hfirst, hcompiled⟩ := except_bind_ok hcompiled
    obtain ⟨others, hothers, hcompiled⟩ := except_bind_ok hcompiled
    cases hcompiled
    rcases List.mem_cons.1 hr with rfl | hr
    · rw [LexRule.compile] at hfirst
      split at hfirst
      · rename_i prog hprog
        cases hfirst
        exact ⟨List.mem_cons_self, prog, hprog, rfl⟩
      · cases hfirst
    · obtain ⟨hmem, hprog⟩ := ih others hothers hr
      exact ⟨List.mem_cons_of_mem _ hmem, hprog⟩

/-- Rules that are compiled from patterns find what stands in the text. -/
theorem truthful_of_ofRules {rules : List LexRule} {lexer : Lexer}
    (h : ofRules rules = .ok lexer) : lexer.Truthful := by
  intro r hr text found hfound
  obtain ⟨-, prog, -, hprog⟩ := exists_program h hr
  rw [hprog] at hfound
  exact Pattern.Program.find_stands hfound

/-- Spaces that are skipped, words that turn the queue round, and a mark whose second form is searched
for in all that is left. -/
def mixedRules : List LexRule :=
  [{ name := "space", pattern := " +", skip := true },
    { name := "word", pattern := "[a-z]+", action := some List.reverse },
    { name := "mark", pattern := "\\?)|(?:!" }]

/-- A text in which all three kinds of rules take part, and a text with a rest. -/
theorem tokenize_tiles_mixed :
    ∃ lexer, ofRules mixedRules = .ok lexer ∧ lexer.Truthful ∧
      (∃ segments, lexer.Tiles 0 "a -!b".toList segments [] ∧
        lexer.tokenize "a -!b" = .ok [⟨"word", "b", ⟨4, 1, 5, 1⟩⟩, ⟨"mark", "!", ⟨2, 1, 3, 2⟩⟩,
          ⟨"word", "a", ⟨0, 1, 1, 1⟩⟩]) ∧
      ∃ segments rest, lexer.Tiles 0 "a -".toList segments rest ∧ rest ≠ [] ∧
        lexer.tokenize "a -" = .error (.noMatch ⟨2, 1, 3, 0⟩) := by
  obtain ⟨lexer, hlexer, hok, herror⟩ : ∃ lexer, ofRules mixedRules = .ok lexer ∧
      lexer.tokenize "a -!b" = .ok [⟨"word", "b", ⟨4, 1, 5, 1⟩⟩, ⟨"mark", "!", ⟨2, 1, 3, 2⟩⟩,
        ⟨"word", "a", ⟨0, 1, 1, 1⟩⟩] ∧
      lexer.tokenize "a -" = .error (.noMatch ⟨2, 1, 3, 0⟩) := ⟨_, rfl, rfl, rfl⟩
  have htrue := truthful_of_ofRules hlexer
  obtain ⟨-, segments, rest, htiles, -, hresult, -⟩ := tokenize_tiles lexer htrue "a -!b"
  obtain ⟨-, others, left, hothers, -, -, hleft⟩ := tokenize_tiles lexer htrue "a -"
  obtain ⟨rfl, -⟩ := (hresult _).1 hok
  exact ⟨lexer, hlexer, htrue, ⟨segments, htiles, hok⟩, others, left, hothers,
    ((hleft _).1 herror).1, herror⟩

end Lexer

end CanonicalLR
