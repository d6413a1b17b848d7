import Mathlib.Data.List.TakeWhile
import Mathlib.Tactic.MkIffOfInductiveProp
import CanonicalLR.Proofs.GrammarFile.Reading

/-! Grammars are written as grammar files and read back. This works for the grammars whose names can
stand in a file and whose expressions all have an alternative. -/
namespace CanonicalLR

namespace GrammarFile

private def Breaks (rest : List Char) : Prop :=
  ∀ c ∈ rest.head?, isNameChar c = false

/-- The text is a word of a grammar file. -/
def IsName (name : String) : Prop :=
  name ≠ "" ∧ ∀ c ∈ name.toList, isNameChar c = true

private theorem breaks_of_head {c : Char} (h : isNameChar c = false) (rest : List Char) :
    Breaks (c :: rest) := by
  rintro d ⟨⟩
  exact h

private theorem lexemes_blank {c : Char} (h : Text.isBlank c = true) (rest : List Char) :
    lexemes (c :: rest) = lexemes rest := by
  rw [lexemes, if_pos h]

private theorem lexemes_colon (rest : List Char) :
    lexemes (':' :: rest) = .colon :: lexemes rest := by
  rw [lexemes]
  rfl

private theorem lexemes_bar (rest : List Char) :
    lexemes ('|' :: rest) = .bar :: lexemes rest := by
  rw [lexemes]
  rfl

private theorem lexemes_semi (rest : List Char) :
    lexemes (';' :: rest) = .semi :: lexemes rest := by
  rw [lexemes]
  rfl

private def margin : List Char := ['\n', ' ', ' ', ' ', ' ']

private theorem lexemes_margin (rest : List Char) : lexemes (margin ++ rest) = lexemes rest := by
  simp only [margin, List.cons_append, List.nil_append]
  iterate 5 rw [lexemes_blank (by decide)]

private theorem breaks_margin (rest : List Char) : Breaks (margin ++ rest) :=
  breaks_of_head (by decide) _

private theorem lexemes_name {name : String} (h : IsName name) {rest : List Char}
    (hr : Breaks rest) : lexemes (name.toList ++ rest) = .ident name :: lexemes rest := by
  obtain ⟨hne, hall⟩ := h
  obtain ⟨c, cs, hcs⟩ := List.exists_cons_of_ne_nil (mt String.toList_eq_nil_iff.1 hne)
  rw [hcs] at hall
  have hc := hall c List.mem_cons_self
  have htail : ∀ d ∈ cs, isNameChar d = true := fun d hd => hall d (List.mem_cons_of_mem _ hd)
  have hstop : rest.takeWhile isNameChar = [] ∧ rest.dropWhile isNameChar = rest := by
    cases rest with
    | nil => exact ⟨rfl, rfl⟩
    | cons d rest => simp [hr d rfl]
  have hname : String.ofList (c :: cs) = name := by rw [← hcs, String.ofList_toList]
  obtain ⟨hblank, hcolon, hbar, hsemi, hcomment⟩ := isNameChar_iff.1 hc
  rw [hcs, List.cons_append, lexemes]
  simp only [hblank, hcolon, hbar, hsemi, hcomment, Bool.false_eq_true, if_false,
    List.takeWhile_append_of_pos htail, List.dropWhile_append_of_pos htail, hstop,
    List.append_nil, hname]

private def elementsText (es : List String) : List Char :=
  es.flatMap fun s => ' ' :: s.toList

private theorem lexemes_elements {es : List String} (h : ∀ s ∈ es, IsName s) {rest : List Char}
    (hr : Breaks rest) :
    lexemes (elementsText es ++ rest) = elementsWords es ++ lexemes rest := by
  induction es with
  | nil => rfl
  | cons s es ih =>
    have hbreaks : Breaks (elementsText es ++ rest) := by
      cases es with
      | nil => exact hr
      | cons t es => exact breaks_of_head (by decide) _
    have hs := lexemes_name (h s List.mem_cons_self) hbreaks
    rw [ih fun t ht => h t (List.mem_cons_of_mem _ ht)] at hs
    have htext : elementsText (s :: es) ++ rest =
        ' ' :: (s.toList ++ (elementsText es ++ rest)) := by
      simp [elementsText]
    rw [htext, lexemes_blank (by decide), hs]
    rfl

private def alternativesText (as : List (List String)) : List Char :=
  (margin ++ ['|']).intercalate (as.map elementsText)

private theorem lexemes_alternatives {as : List (List String)}
    (h : ∀ es ∈ as, ∀ s ∈ es, IsName s) {rest : List Char} (hr : Breaks rest) :
    lexemes (alternativesText as ++ rest) = alternativesWords as ++ lexemes rest := by
  induction as with
  | nil => rfl
  | cons es as ih =>
    have hes := h es List.mem_cons_self
    have ih := ih fun fs hfs => h fs (List.mem_cons_of_mem _ hfs)
    cases as with
    | nil => simpa [alternativesText, alternativesWords] using lexemes_elements hes hr
    | cons fs as =>
      have htext : alternativesText (es :: fs :: as) ++ rest =
          elementsText es ++ (margin ++ '|' :: (alternativesText (fs :: as) ++ rest)) := by
        simp [alternativesText, List.intercalate_cons_cons]
      rw [htext, lexemes_elements hes (breaks_margin _), lexemes_margin, lexemes_bar, ih,
        alternativesWords_cons_cons, List.append_assoc]
      rfl

private def definitionText (d : String × List (List String)) : List Char :=
  d.1.toList ++ ' ' :: ':' :: alternativesText d.2 ++ margin ++ [';', '\n']

private theorem lexemes_definition {d : String × List (List String)} (hn : IsName d.1)
    (h : ∀ es ∈ d.2, ∀ s ∈ es, IsName s) (rest : List Char) :
    lexemes (definitionText d ++ rest) = definitionWords d ++ lexemes rest := by
  have htext : definitionText d ++ rest = d.1.toList ++ ' ' :: ':' :: (alternativesText d.2 ++
      (margin ++ ';' :: '\n' :: rest)) := by
    simp [definitionText]
  rw [htext, lexemes_name hn (breaks_of_head (by decide) _), lexemes_blank (by decide),
    lexemes_colon, lexemes_alternatives h (breaks_margin _), lexemes_margin, lexemes_semi,
    lexemes_blank (by decide)]
  simp [definitionWords]

private theorem lexemes_definitions {ds : Definitions}
    (h : ∀ d ∈ ds, IsName d.1 ∧ ∀ es ∈ d.2, ∀ s ∈ es, IsName s) :
    lexemes (ds.flatMap definitionText) = words ds := by
  induction ds with
  | nil => rw [List.flatMap_nil, lexemes]; rfl
  | cons d ds ih =>
    obtain ⟨hn, hs⟩ := h d List.mem_cons_self
    rw [List.flatMap_cons, lexemes_definition hn hs, ih fun e he => h e (List.mem_cons_of_mem _ he)]
    rfl

private theorem isNameChar_of_mem_lexemes {text : List Char} {name : String}
    (h : .ident name ∈ lexemes text) : ∀ c ∈ name.toList, isNameChar c = true := by
  fun_induction lexemes text with
  | case1 => cases h
  | case2 c text hc ih => exact ih h
  | case3 text hc ih => exact ih h
  | case4 text _ _ ih => exact ih (by simpa using h)
  | case5 text _ _ _ ih => exact ih (by simpa using h)
  | case6 text _ _ _ _ ih => exact ih (by simpa using h)
  | case7 c text hblank hcomment hcolon hbar hsemi ih =>
    rcases List.mem_cons.1 h with h | h
    · cases h
      rw [String.toList_ofList]
      intro d hd
      rcases List.mem_cons.1 hd with rfl | hd
      · exact isNameChar_iff.2 ⟨by simpa using hblank, hcolon, hbar, hsemi, hcomment⟩
      · exact List.mem_takeWhile_imp hd
    · exact ih h

private theorem mem_alternativesWords {as : List (List String)} {es : List String} (h : es ∈ as)
    {s : String} (hs : s ∈ es) : .ident s ∈ alternativesWords as := by
  induction as with
  | nil => cases h
  | cons fs as ih =>
    have hmem : .ident s ∈ elementsWords es := List.mem_map_of_mem hs
    cases as with
    | nil =>
      cases List.mem_singleton.1 h
      simpa [alternativesWords] using hmem
    | cons gs as =>
      rw [alternativesWords_cons_cons, List.mem_append]
      rcases List.mem_cons.1 h with rfl | h
      · exact .inl hmem
      · exact .inr (List.mem_cons_of_mem _ (ih h))

private theorem mem_words {ds : Definitions} {d : String × List (List String)} (h : d ∈ ds) :
    .ident d.1 ∈ words ds ∧ ∀ es ∈ d.2, ∀ s ∈ es, .ident s ∈ words ds := by
  refine ⟨List.mem_flatMap.2 ⟨d, h, by simp [definitionWords]⟩, fun es hes s hs => ?_⟩
  exact List.mem_flatMap.2 ⟨d, h, by simp [definitionWords, mem_alternativesWords hes hs]⟩

end GrammarFile

open GrammarFile

namespace Grammar

variable {α : Type}

/-- The names and alternatives of a grammar in order, as a file gives them. -/
def written (g : Grammar α) : GrammarFile.Definitions :=
  g.definitions.map fun d => (d.name, d.alternatives.map (·.symbols))

/-- The name holds no character that has a meaning in grammar files. -/
def Unmarked (name : String) : Prop :=
  ∀ c ∈ name.toList, c ∉ [':', '|', ';', '#']

instance : DecidablePred Unmarked := fun name =>
  List.decidableBAll (· ∉ [':', '|', ';', '#']) name.toList

/-- Every expression has an alternative, and no name holds a character that has a meaning in grammar
files. -/
@[mk_iff]
structure Writable (g : Grammar α) : Prop where
  alternatives : ∀ d ∈ g.definitions, d.alternatives ≠ []
  names : ∀ d ∈ g.definitions, Unmarked d.name
  symbols : ∀ d ∈ g.definitions, ∀ a ∈ d.alternatives, ∀ s ∈ a.symbols, Unmarked s

instance (g : Grammar α) : Decidable g.Writable := decidable_of_iff _ (writable_iff g).symm

private theorem toList_render (g : Grammar α) :
    g.render.toList = g.written.flatMap definitionText := by
  have hdefinition : ∀ d : Definition α, d.render.toList =
      definitionText (d.name, d.alternatives.map (·.symbols)) := by
    intro d
    simp [Definition.render, definitionText, alternativesText, elementsText, margin,
      String.toList_intercalate, String.toList_join, Function.comp_def, List.flatMap_map]
  rw [render, String.toList_join, List.flatMap_map, written, List.flatMap_map]
  exact List.flatMap_congr fun d _ => hdefinition d

private theorem isName_of_check {name : String} (h : checkName name = .ok ())
    (hu : Unmarked name) : IsName name := by
  unfold checkName at h
  split at h
  · cases h
  · rename_i hvalid
    simp only [Bool.or_eq_true, not_or, Bool.not_eq_true, List.any_eq_false] at hvalid
    obtain ⟨hne, hblank⟩ := hvalid
    refine ⟨by simpa using hne, fun c hc => ?_⟩
    have hmark := hu c hc
    simp only [List.mem_cons, List.not_mem_nil, or_false, not_or] at hmark
    exact isNameChar_iff.2 ⟨by simpa using hblank c hc, hmark⟩

/-- The words of a printed grammar are those of its definitions. -/
theorem lexemes_render {g : Grammar α} (h : g.Writable) :
    lexemes g.render.toList = words g.written := by
  rw [toList_render]
  apply lexemes_definitions
  intro e he
  obtain ⟨d, hd, rfl⟩ := List.mem_map.1 he
  obtain ⟨hname, hsymbols⟩ := g.checkName_of_mem hd
  refine ⟨isName_of_check hname (h.names d hd), fun es hes s hs => ?_⟩
  obtain ⟨a, ha, rfl⟩ := List.mem_map.1 hes
  exact isName_of_check (hsymbols a ha s hs) (h.symbols d hd a ha s hs)

private theorem toDefinitions_written {β : Type} (g : Grammar α) :
    g.written.toDefinitions = g.definitions.map (.bare β) := by
  simp [written, Definitions.toDefinitions, Definition.bare, Function.comp_def]

private theorem written_of_definitions {g : Grammar α} {ds : Definitions}
    (h : g.definitions = ds.toDefinitions) : g.written = ds := by
  simp [written, h, Definitions.toDefinitions, Function.comp_def]

/-- The grammar of a text has the definitions that are read. -/
theorem ofSource_eq_ok_iff {source : String} {g : Grammar α} : ofSource source = .ok g ↔
    ∃ ds, read source = .ok ds ∧ g.definitions = ds.toDefinitions := by
  unfold ofSource
  cases hread : read source with
  | error e => exact ⟨nofun, nofun⟩
  | ok ds =>
    have hbind : ((Except.ok ds).mapError GrammarError.file >>= fun ds =>
        (define (α := α) ds.toDefinitions).mapError .definition) =
          (define ds.toDefinitions).mapError .definition := rfl
    rw [hbind]
    constructor
    · intro h
      cases hdefine : define (α := α) ds.toDefinitions with
      | error e =>
        rw [hdefine] at h
        cases h
      | ok made =>
        rw [hdefine] at h
        cases h
        exact ⟨ds, rfl, define_eq_ok_iff.1 hdefine⟩
    · rintro ⟨ds', hds, hg⟩
      cases hds
      rw [define_eq_ok_iff.2 hg]
      rfl

/-- If the words of a text are those of a grammar, nothing in the grammar stands in the way. -/
private theorem writable_of_lexemes {g : Grammar α} {text : List Char}
    (h : lexemes text = words g.written) (has : ∀ d ∈ g.written, d.2 ≠ []) : g.Writable := by
  have hunmarked : ∀ {name}, .ident name ∈ words g.written → Unmarked name := by
    intro name hname c hc
    rw [← h] at hname
    have hchar := isNameChar_iff.1 (isNameChar_of_mem_lexemes hname c hc)
    simp [hchar]
  have hmem : ∀ d ∈ g.definitions, (d.name, d.alternatives.map (·.symbols)) ∈ g.written :=
    fun d hd => List.mem_map_of_mem hd
  refine ⟨fun d hd ha => ?_, fun d hd => ?_, fun d hd a ha s hs => ?_⟩
  · exact has _ (hmem d hd) (by simp [ha])
  · exact hunmarked (mem_words (hmem d hd)).1
  · exact hunmarked ((mem_words (hmem d hd)).2 _ (List.mem_map_of_mem ha) s hs)

private theorem augmented_of_written {β : Type} {g : Grammar α} {g' : Grammar β}
    (h : g'.written = g.written) : g'.augmented = g.augmented := by
  have hbare : g'.definitions.map (Definition.bare Unit) =
      g.definitions.map (Definition.bare Unit) := by
    rw [← toDefinitions_written, ← toDefinitions_written, h]
  have heq := congrArg AugmentedGrammar.ofDefinitions hbare
  rw [AugmentedGrammar.ofDefinitions_bare, AugmentedGrammar.ofDefinitions_bare, g.augmented_eq,
    g'.augmented_eq] at heq
  exact Except.ok.inj heq

private theorem ofSource_render_of_writable {g : Grammar α} (h : g.Writable) :
    ofSource g.render = .ok (g.bare α) := by
  refine ofSource_eq_ok_iff.2 ⟨g.written, read_eq_ok_iff.2 ⟨?_, ?_, lexemes_render h⟩, ?_⟩
  · exact mt List.map_eq_nil_iff.1 g.definitions_ne_nil
  · intro e he
    obtain ⟨d, hd, rfl⟩ := List.mem_map.1 he
    exact mt List.map_eq_nil_iff.1 (h.alternatives d hd)
  · exact (toDefinitions_written g).symm

/-- A grammar that is written as a file is read back, with the same expressions and alternatives in
order, if and only if every expression has an alternative and no name holds a character that has a
meaning in files. What is read back then has the same numbered form and the same table. A grammar
that was read from a file is read back as it is. -/
theorem ofSource_render (g : Grammar α) :
    ((∃ g' : Grammar α, ofSource g.render = .ok g' ∧ g'.written = g.written) ↔ g.Writable) ∧
    (∀ g' : Grammar α, ofSource g.render = .ok g' → g'.written = g.written →
      g'.augmented = g.augmented ∧ Table.ofGrammar g' = Table.ofGrammar g) ∧
    ∀ source, ofSource source = .ok g → ofSource g.render = .ok g := by
  refine ⟨⟨?_, fun h => ⟨_, ofSource_render_of_writable h, ?_⟩⟩, ?_, ?_⟩
  · rintro ⟨g', hg, hwritten⟩
    obtain ⟨ds, hread, hds⟩ := ofSource_eq_ok_iff.1 hg
    obtain ⟨-, has, hwords⟩ := read_eq_ok_iff.1 hread
    have hsame : ds = g.written := (written_of_definitions hds).symm.trans hwritten
    subst hsame
    exact writable_of_lexemes hwords has
  · exact written_of_definitions (toDefinitions_written g).symm
  · intro g' _ hwritten
    have haugmented := augmented_of_written hwritten
    exact ⟨haugmented, Table.ofGrammar_congr haugmented⟩
  · intro source hg
    obtain ⟨ds, hread, hds⟩ := ofSource_eq_ok_iff.1 hg
    obtain ⟨-, has, hwords⟩ := read_eq_ok_iff.1 hread
    obtain rfl := written_of_definitions hds
    have hbare : g.bare α = g := ext ((toDefinitions_written g).symm.trans hds.symm)
    rw [ofSource_render_of_writable (writable_of_lexemes hwords has), hbare]

/-- A grammar with one expression, which refers to a name with a colon in it. -/
def markedGrammar : Grammar Unit where
  definitions := [⟨"S", [⟨["a:b"], none⟩]⟩]
  distinct := by decide
  unrepeated := by decide
  augmented := ⟨["$", "a:b"], ["$start", "S"], [⟨0, [.nonterminal 1], 0⟩, ⟨1, [.terminal 1], 0⟩]⟩
  augmented_eq := by decide +kernel

/-- A grammar that comes back from its text, and one that does not. -/
theorem ofSource_render_samples :
    (∃ g : Grammar Unit,
      ofSource Parser.pairGrammar.render = .ok g ∧ g.written = Parser.pairGrammar.written) ∧
    ¬ ∃ g : Grammar Unit,
      ofSource markedGrammar.render = .ok g ∧ g.written = markedGrammar.written :=
  ⟨(ofSource_render Parser.pairGrammar).1.2 (by decide),
    mt (ofSource_render markedGrammar).1.1 (by decide)⟩

end Grammar

end CanonicalLR
