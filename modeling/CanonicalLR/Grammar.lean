import CanonicalLR.Grammar.Numbering

/-! Grammars: checked definitions together with their numbered form. -/
namespace CanonicalLR

/-- The first member of a list that occurs before it or in `seen`. -/
def firstRepeated? {α : Type} [DecidableEq α] (seen : List α) : List α → Option α
  | [] => none
  | a :: as => if a ∈ seen then some a else firstRepeated? (a :: seen) as

private theorem firstRepeated?_none {α : Type} [DecidableEq α] {seen as : List α}
    (h : firstRepeated? seen as = none) : as.Nodup ∧ ∀ a ∈ as, a ∉ seen := by
  induction as generalizing seen with
  | nil => exact ⟨.nil, by simp⟩
  | cons a as ih =>
    unfold firstRepeated? at h
    split at h
    · simp at h
    · rename_i ha
      obtain ⟨hn, hs⟩ := ih h
      refine ⟨List.nodup_cons.2 ⟨fun hm => hs a hm List.mem_cons_self, hn⟩, fun b hb => ?_⟩
      rcases List.mem_cons.1 hb with rfl | hb
      · exact ha
      · exact fun hm => hs b hb (List.mem_cons_of_mem _ hm)

/-- Definitions made so far: no name is defined twice, and no definition repeats an alternative. -/
structure Draft (α : Type) where
  definitions : List (Definition α)
  distinct : (definitions.map (·.name)).Nodup
  unrepeated : ∀ d ∈ definitions, (d.alternatives.map (·.symbols)).Nodup

namespace Draft

variable {α : Type}

def empty : Draft α := ⟨[], .nil, by simp⟩

/-- Makes one more definition. Its name has to be new, and its alternatives distinct. -/
def add (draft : Draft α) (d : Definition α) : Except DefinitionError (Draft α) :=
  if hd : d.name ∈ draft.definitions.map (·.name) then .error (.duplicateExpression d.name)
  else match ha : firstRepeated? [] (d.alternatives.map (·.symbols)) with
    | some symbols => .error (.duplicateAlternative d.name symbols)
    | none => .ok {
        definitions := draft.definitions ++ [d]
        distinct := by
          rw [List.map_append, List.nodup_append]
          refine ⟨draft.distinct, by simp, fun a hm b hb hab => hd ?_⟩
          have hb : b = d.name := List.mem_singleton.1 hb
          exact hb ▸ hab ▸ hm
        unrepeated := fun e he => by
          rcases List.mem_append.1 he with he | he
          · exact draft.unrepeated e he
          · rcases List.mem_singleton.1 he with rfl
            exact (firstRepeated?_none ha).1 }

def ofList (definitions : List (Definition α)) : Except DefinitionError (Draft α) :=
  definitions.foldlM add empty

end Draft

/-- Definitions that make a grammar, and its numbered form. Actions of type `α` play no part in the
latter. -/
structure Grammar (α : Type) extends Draft α where
  augmented : AugmentedGrammar
  augmented_eq : AugmentedGrammar.ofDefinitions definitions = .ok augmented

def Draft.finish {α : Type} (draft : Draft α) : Except DefinitionError (Grammar α) :=
  match h : AugmentedGrammar.ofDefinitions draft.definitions with
  | .ok augmented => .ok { draft with augmented, augmented_eq := h }
  | .error e => .error e

namespace Grammar

variable {α : Type}

def define (definitions : List (Definition α)) : Except DefinitionError (Grammar α) := do
  (← Draft.ofList definitions).finish

def definition? (g : Grammar α) (name : String) : Option (Definition α) :=
  g.definitions.find? (·.name = name)

def action? (g : Grammar α) (name : String) (alternative : Nat) : Option α := do
  (← (← g.definition? name).alternatives[alternative]?).action

def start (g : Grammar α) : String :=
  g.augmented.symbolName (.nonterminal AugmentedGrammar.startSymbol)

def terminals (g : Grammar α) : List String :=
  g.augmented.terminals.drop 1

end Grammar

def Definition.render {α : Type} (d : Definition α) : String :=
  let alternatives := d.alternatives.map fun a => String.join (a.symbols.map (" " ++ ·))
  d.name ++ " :" ++ "\n    |".intercalate alternatives ++ "\n    ;\n"

def Grammar.render {α : Type} (g : Grammar α) : String :=
  String.join (g.definitions.map Definition.render)

end CanonicalLR
