import CanonicalLR.GrammarFile
import CanonicalLR.Proofs.Matching
import CanonicalLR.Proofs.Tokenization

/-! The words of grammar files, said without patterns: three marks, and names that reach as far as they
can. White space separates words, and so do comments. The lexer of grammar files finds just these
words. -/
namespace CanonicalLR

namespace Pattern.CharSet

@[simp] theorem contains_single (c d : Char) : (single c).contains d = (d == c) := by
  have heq : d = c ↔ d.toNat = c.toNat := Char.toNat_inj.symm
  simp only [contains, single, Text.inside]
  by_cases h : d.toNat = c.toNat
  · simp [heq, h]
  · grind

private theorem contains_union {a b : CharSet} (ha : a.bounds.Pairwise (· < ·))
    (hb : b.bounds.Pairwise (· < ·)) (c : Char) :
    (a.union b).contains c = (a.contains c || b.contains c) :=
  Text.inside_combine _ rfl ha hb _

private theorem contains_compl {a : CharSet} (ha : a.bounds.Pairwise (· < ·)) (c : Char) :
    a.compl.contains c = !a.contains c := by
  have hfull : full.contains c = true := by
    have hlt : c.toNat < 0x110000 := by
      have hvalid : c.toNat.isValidChar := c.valid
      unfold Nat.isValidChar at hvalid
      omega
    simp [full, contains, Text.inside, hlt]
  have hdiff : a.compl.contains c = (full.contains c && !a.contains c) :=
    Text.inside_combine (fun p q => p && !q) rfl (by decide) ha _
  rw [hdiff, hfull, Bool.true_and]

end Pattern.CharSet

namespace GrammarFile

/-- A word of a grammar file. -/
inductive Lexeme where
  | colon
  | bar
  | semi
  | ident (name : String)
deriving DecidableEq

def Lexeme.kind : Lexeme → String
  | colon => "colon"
  | bar => "bar"
  | semi => "semi"
  | ident _ => "ident"

/-- Names are made of all characters but white space and the four that have a meaning. -/
def isNameChar (c : Char) : Bool :=
  !(Text.isBlank c || c == ':' || c == '|' || c == ';' || c == '#')

theorem isNameChar_iff {c : Char} : isNameChar c = true ↔
    Text.isBlank c = false ∧ c ≠ ':' ∧ c ≠ '|' ∧ c ≠ ';' ∧ c ≠ '#' := by
  simp [isNameChar, and_assoc]

/-- The words of a text. A comment goes from its mark to the end of the line. -/
def lexemes : List Char → List Lexeme
  | [] => []
  | c :: text =>
    if Text.isBlank c then lexemes text
    else if c = '#' then lexemes (text.dropWhile (· ≠ '\n'))
    else if c = ':' then .colon :: lexemes text
    else if c = '|' then .bar :: lexemes text
    else if c = ';' then .semi :: lexemes text
    else .ident (String.ofList (c :: text.takeWhile isNameChar)) ::
      lexemes (text.dropWhile isNameChar)
termination_by text => text.length
decreasing_by
  all_goals simp only [List.length_cons, Nat.lt_succ_iff]
  all_goals first | exact Nat.le_refl _ | exact (List.dropWhile_sublist _).length_le

def lexeme? (token : Token) : Option Lexeme :=
  match token.name with
  | "colon" => some .colon
  | "bar" => some .bar
  | "semi" => some .semi
  | "ident" => some (.ident token.content)
  | _ => none

def nameSet : Pattern.CharSet :=
  .compl (.unions [.blank, .single ':', .single '|', .single ';', .single '#'])

def lexer : Lexer where
  rules := [
    ⟨{ name := "ws", pattern := "\\s+", skip := true }, (Pattern.Program.repeated .blank).find⟩,
    ⟨{ name := "comment", pattern := "#[^\\n]*", skip := true },
      (Pattern.Program.led (.single '#') (.compl (.single '\n'))).find⟩,
    ⟨{ name := "colon", pattern := ":" }, (Pattern.Program.only (.single ':')).find⟩,
    ⟨{ name := "bar", pattern := "\\|" }, (Pattern.Program.only (.single '|')).find⟩,
    ⟨{ name := "semi", pattern := ";" }, (Pattern.Program.only (.single ';')).find⟩,
    ⟨{ name := "ident", pattern := "[^\\s:|;#]+" }, (Pattern.Program.repeated nameSet).find⟩]

/-- The rules of grammar files compile. -/
theorem ofRules_rules : Lexer.ofRules rules = .ok lexer := rfl

private theorem contains_nameSet : nameSet.contains = isNameChar := by
  funext c
  have hblank : Pattern.CharSet.blank.contains c = Text.isBlank c := rfl
  have hempty : Pattern.CharSet.empty.contains c = false := rfl
  rw [nameSet, Pattern.CharSet.contains_compl (by decide +kernel)]
  simp only [Pattern.CharSet.unions, List.foldl_cons, List.foldl_nil]
  iterate 5 rw [Pattern.CharSet.contains_union (by decide +kernel) (by decide +kernel)]
  simp [hblank, hempty, isNameChar]

private theorem contains_lineSet :
    (Pattern.CharSet.compl (.single '\n')).contains = fun c => decide (c ≠ '\n') := by
  funext c
  rw [Pattern.CharSet.contains_compl (by decide), Pattern.CharSet.contains_single]
  cases h : c == '\n' <;> simp_all

private theorem lexemes_dropWhile_isBlank (text : List Char) :
    lexemes (text.dropWhile Text.isBlank) = lexemes text := by
  induction text with
  | nil => rfl
  | cons c text ih =>
    by_cases hc : Text.isBlank c = true
    · rw [List.dropWhile_cons_of_pos hc, ih, lexemes, if_pos hc]
    · rw [List.dropWhile_cons_of_neg hc]

/-- One round of the lexer takes the first word off, or what separates words. -/
private theorem firstMatch_cons (c : Char) (text : List Char) :
    ∃ rule taken rest, lexer.firstMatch (c :: text) = some (rule, ⟨[], c :: taken⟩) ∧
      text = taken ++ rest ∧ rule.action = none ∧
      (rule.skip = true ∧ lexemes (c :: text) = lexemes rest ∨
        rule.skip = false ∧ ∃ word, lexemes (c :: text) = word :: lexemes rest ∧
          ∀ place, lexeme? ⟨rule.name, String.ofList (c :: taken), place⟩ = some word) := by
  have hblank : Pattern.CharSet.blank.contains = Text.isBlank := rfl
  simp only [Lexer.firstMatch, lexer, List.findSome?, Pattern.Program.find_repeated,
    Pattern.Program.find_led, Pattern.Program.find_only, contains_nameSet, contains_lineSet, hblank,
    Pattern.CharSet.contains_single, lexemes]
  by_cases hc : Text.isBlank c = true
  · simp only [hc, if_true, Option.map_some]
    exact ⟨_, _, _, rfl, List.takeWhile_append_dropWhile.symm, rfl,
      .inl ⟨rfl, (lexemes_dropWhile_isBlank text).symm⟩⟩
  simp only [hc, Bool.false_eq_true, if_false, Option.map_none]
  by_cases hcomment : c = '#'
  · subst hcomment
    exact ⟨_, _, _, rfl, List.takeWhile_append_dropWhile.symm, rfl, .inl ⟨rfl, rfl⟩⟩
  by_cases hcolon : c = ':'
  · subst hcolon
    exact ⟨_, [], text, rfl, rfl, rfl, .inr ⟨rfl, .colon, rfl, fun _ => rfl⟩⟩
  by_cases hbar : c = '|'
  · subst hbar
    exact ⟨_, [], text, rfl, rfl, rfl, .inr ⟨rfl, .bar, rfl, fun _ => rfl⟩⟩
  by_cases hsemi : c = ';'
  · subst hsemi
    exact ⟨_, [], text, rfl, rfl, rfl, .inr ⟨rfl, .semi, rfl, fun _ => rfl⟩⟩
  have hname : isNameChar c = true :=
    isNameChar_iff.2 ⟨by simpa using hc, hcolon, hbar, hsemi, hcomment⟩
  simp only [hcomment, hcolon, hbar, hsemi, hname, beq_iff_eq, if_false, if_true,
    Option.map_none, Option.map_some]
  exact ⟨_, _, _, rfl, List.takeWhile_append_dropWhile.symm, rfl,
    .inr ⟨rfl, _, rfl, fun _ => rfl⟩⟩

/-- The scan goes to the end of the text, and its segments stand for the words. -/
theorem scanFrom_lexemes (lines : LineStarts) {fuel : Nat} (offset : Nat) {text : List Char}
    (hf : text.length ≤ fuel) :
    (lexer.scanFrom fuel offset text).stop = .finished ∧
      (∀ s ∈ (lexer.scanFrom fuel offset text).segments, s.rule.action = none) ∧
      (lexer.scanFrom fuel offset text).emitted.map (fun s => lexeme? (s.token lines)) =
        (lexemes text).map some := by
  induction fuel generalizing offset text with
  | zero =>
    cases List.eq_nil_of_length_eq_zero (Nat.le_zero.1 hf)
    simp [Lexer.scanFrom, Scan.emitted, lexemes]
  | succ fuel ih =>
    cases text with
    | nil => simp [Lexer.scanFrom, Scan.emitted, lexemes]
    | cons c text =>
      obtain ⟨rule, taken, rest, hmatch, rfl, haction, hwords⟩ := firstMatch_cons c text
      have hrest : rest.length ≤ fuel := by
        simp at hf
        omega
      obtain ⟨hstop, hactions, hih⟩ := ih (offset + Text.byteLength (c :: taken)) hrest
      have hscan : lexer.scanFrom (fuel + 1) offset (c :: (taken ++ rest)) =
          { lexer.scanFrom fuel (offset + Text.byteLength (c :: taken)) rest with
            segments := ⟨rule, offset, ⟨[], c :: taken⟩⟩ ::
              (lexer.scanFrom fuel (offset + Text.byteLength (c :: taken)) rest).segments } := by
        rw [Lexer.scanFrom, hmatch]
        simp [Segment.text]
      rw [hscan]
      refine ⟨hstop, by simpa using ⟨haction, hactions⟩, ?_⟩
      rw [Scan.emitted] at hih ⊢
      rcases hwords with ⟨hskip, hwords⟩ | ⟨hskip, word, hwords, hword⟩
      · simpa [hskip, hwords] using hih
      · rw [List.filter_cons_of_pos (by simp [hskip]), List.map_cons, hih, hwords, List.map_cons]
        exact congrArg (· :: _) (hword _)

/-- Every text is split into tokens, and they stand for its words. -/
theorem exists_tokenize (source : String) :
    ∃ tokens, lexer.tokenize source = .ok tokens ∧
      tokens.map lexeme? = (lexemes source.toList).map some := by
  obtain ⟨hstop, hactions, hwords⟩ := scanFrom_lexemes (.ofText source.toList) 0
    (Nat.le_refl source.toList.length)
  have hemitted : ∀ s ∈ (lexer.scan source.toList).emitted, s.rule.action = none := fun s hs =>
    hactions s (List.mem_filter.1 hs).1
  refine ⟨(lexer.scan source.toList).emitted.map (Segment.token (.ofText source.toList)), ?_, ?_⟩
  · have hfinished : (lexer.scan source.toList).stop = .finished := hstop
    simp [Lexer.tokenize, hfinished, Lexer.foldl_emit [] hemitted]
  · rw [List.map_map]
    exact hwords

end GrammarFile

end CanonicalLR
