import CanonicalLR.Pattern.Escape
import CanonicalLR.Proofs.Numbering

/-! Reading a piece of a pattern text does not depend on a closing parenthesis behind the text: where
the piece can be read without it, it is read in the same way in front of it. This module says so for
escapes. -/
namespace CanonicalLR.Pattern

/-- Where the first result is a success, so is the second, and they are related. -/
def Follows {α β : Type} (R : α → β → Prop) (x : Except PatternError α)
    (y : Except PatternError β) : Prop :=
  ∀ a, x = .ok a → ∃ b, y = .ok b ∧ R a b

namespace Follows

variable {α β γ δ : Type} {R : α → β → Prop} {S : γ → δ → Prop}

theorem ok {a : α} {b : β} (h : R a b) : Follows R (.ok a) (.ok b) := by
  rintro _ ⟨⟩
  exact ⟨b, rfl, h⟩

theorem error {e : PatternError} {y : Except PatternError β} : Follows R (.error e) y := by
  rintro _ ⟨⟩

/-- Success carries over to what is done with a result. -/
theorem bind {x : Except PatternError α} {y : Except PatternError β}
    {f : α → Except PatternError γ} {g : β → Except PatternError δ} (h : Follows R x y)
    (hf : ∀ a b, R a b → Follows S (f a) (g b)) : Follows S (x >>= f) (y >>= g) := by
  intro c hc
  obtain ⟨a, ha, hc⟩ := except_bind_ok hc
  obtain ⟨b, hb, hab⟩ := h a ha
  obtain ⟨d, hd, hcd⟩ := hf a b hab c hc
  exact ⟨d, except_bind_of_ok hb hd, hcd⟩

/-- The same first step may be dropped from both sides. -/
theorem same {x : Except PatternError α} {f : α → Except PatternError γ}
    {g : α → Except PatternError δ} (hf : ∀ a, Follows S (f a) (g a)) :
    Follows S (x >>= f) (x >>= g) := by
  intro c hc
  obtain ⟨a, ha, hc⟩ := except_bind_ok hc
  obtain ⟨d, hd, hcd⟩ := hf a c hc
  exact ⟨d, except_bind_of_ok ha hd, hcd⟩

theorem ite {p : Prop} [Decidable p] {x x' : Except PatternError α} {y y' : Except PatternError β}
    (h : Follows R x y) (h' : Follows R x' y') :
    Follows R (if p then x else x') (if p then y else y') := by
  split
  · exact h
  · exact h'

end Follows

/-- A text and the same text with a closing parenthesis behind it. The parenthesis may have been
dropped with a comment that reaches to the end. -/
inductive Closed : List Char → List Char → Prop
  | shut (text : List Char) : Closed text (text ++ [')'])
  | nil : Closed [] []

namespace Closed

/-- A text that has not come to its end goes on with the same character. -/
@[elab_as_elim]
theorem byHead {motive : ∀ text longer, Closed text longer → Prop} {text longer : List Char}
    (h : Closed text longer) (nil : ∀ longer h, motive [] longer h)
    (cons : ∀ c rest, motive (c :: rest) (c :: (rest ++ [')'])) (.shut (c :: rest))) :
    motive text longer h := by
  cases h with
  | nil => exact nil [] .nil
  | shut text =>
    cases text with
    | nil => exact nil [')'] (.shut [])
    | cons c rest => exact cons c rest

theorem le_length {text longer : List Char} (h : Closed text longer) :
    text.length ≤ longer.length := by
  cases h <;> simp

theorem eq_of_nil {longer : List Char} (h : Closed [] longer) : longer = [')'] ∨ longer = [] := by
  cases h
  · exact .inl rfl
  · exact .inr rfl

/-- Induction for a reader that takes off at least a character in each round and has a round for every
character. What is left after a round is shorter, on both sides. -/
@[elab_as_elim]
theorem rounds {motive : Nat → Nat → List Char → List Char → Prop} {fuel fuel' : Nat}
    {text longer : List Char} (h : Closed text longer) (hf : text.length ≤ fuel)
    (hf' : longer.length ≤ fuel')
    (nil : ∀ fuel fuel' longer, Closed [] longer → motive fuel fuel' [] longer)
    (cons : ∀ fuel fuel' c text, (∀ {rest rest'}, Closed rest rest' → rest.length ≤ text.length →
      rest'.length ≤ (text ++ [')']).length → motive fuel fuel' rest rest') →
      motive (fuel + 1) (fuel' + 1) (c :: text) (c :: (text ++ [')']))) :
    motive fuel fuel' text longer := by
  induction fuel generalizing fuel' text longer with
  | zero =>
    cases List.eq_nil_of_length_eq_zero (Nat.le_zero.1 hf)
    exact nil 0 fuel' longer h
  | succ fuel ih =>
    induction h using Closed.byHead with
    | nil longer h => exact nil (fuel + 1) fuel' longer h
    | cons c text =>
      cases fuel' with
      | zero => simp at hf'
      | succ fuel' =>
        rw [List.length_cons, Nat.succ_le_succ_iff] at hf hf'
        refine cons fuel fuel' c text fun h hle hle' => ?_
        exact ih h (Nat.le_trans hle hf) (Nat.le_trans hle' hf')

end Closed

theorem takeWhile_shut {p : Char → Bool} {text : List Char} (h : text.dropWhile p ≠ []) :
    (text ++ [')']).takeWhile p = text.takeWhile p := by
  rw [List.takeWhile_append, if_neg]
  intro hlength
  have hparts := congrArg List.length (List.takeWhile_append_dropWhile (p := p) (l := text))
  rw [List.length_append, hlength] at hparts
  exact h (List.eq_nil_of_length_eq_zero (by omega))

theorem dropWhile_shut_of_ne {p : Char → Bool} {text : List Char} (h : text.dropWhile p ≠ []) :
    (text ++ [')']).dropWhile p = text.dropWhile p ++ [')'] := by
  rw [List.dropWhile_append, if_neg]
  rwa [List.isEmpty_iff]

theorem dropWhile_shut {p : Char → Bool} (text : List Char) (hp : p ')' = false) :
    (text ++ [')']).dropWhile p = text.dropWhile p ++ [')'] := by
  by_cases h : text.dropWhile p = []
  · rw [List.dropWhile_append, h]
    simp [hp]
  · exact dropWhile_shut_of_ne h

private theorem closed_nextLine (text : List Char) :
    Closed ((text.dropWhile (· != '\n')).drop 1) (((text ++ [')']).dropWhile (· != '\n')).drop 1) := by
  by_cases h : text.dropWhile (· != '\n') = []
  · rw [List.dropWhile_append, h]
    exact .nil
  · obtain ⟨c, rest, hrest⟩ := List.exists_cons_of_ne_nil h
    rw [dropWhile_shut_of_ne h, hrest]
    exact .shut rest

private theorem length_nextLine (text : List Char) :
    ((text.dropWhile (· != '\n')).drop 1).length ≤ text.length := by
  have hle := (List.dropWhile_sublist (l := text) (· != '\n')).length_le
  rw [List.length_drop]
  omega

/-- A comment that reaches to the end of the text goes on behind it, so it drops the parenthesis. -/
private theorem closed_skip {fuel fuel' : Nat} {text longer : List Char} (h : Closed text longer)
    (hf : text.length ≤ fuel) (hf' : longer.length ≤ fuel') :
    Closed (Flags.skip.go fuel text) (Flags.skip.go fuel' longer) := by
  refine h.rounds hf hf' (fun fuel fuel' longer h => ?_) fun fuel fuel' c text ih => ?_
  · have hblank : Text.isBlank ')' = false := by decide
    rcases h.eq_of_nil with rfl | rfl <;> cases fuel <;> cases fuel' <;>
      simp [Flags.skip.go, hblank, h]
  · rw [Flags.skip.go, Flags.skip.go]
    split
    · exact ih (.shut text) (Nat.le_refl _) (Nat.le_refl _)
    · split
      · exact ih (closed_nextLine text) (length_nextLine _) (length_nextLine _)
      · exact .shut (c :: text)

/-- What verbose mode ignores is skipped alike, up to the parenthesis. -/
theorem Closed.skip {text longer : List Char} (h : Closed text longer) (flags : Flags) :
    Closed (flags.skip text) (flags.skip longer) := by
  rw [Flags.skip, Flags.skip]
  split
  · exact closed_skip h (Nat.le_refl _) (Nat.le_refl _)
  · exact h

theorem skip_nil (flags : Flags) : flags.skip [] = [] := by
  unfold Flags.skip
  split <;> rfl

private theorem length_go (fuel : Nat) (text : List Char) :
    (Flags.skip.go fuel text).length ≤ text.length := by
  induction fuel generalizing text with
  | zero => exact Nat.le_refl _
  | succ fuel ih =>
    cases text with
    | nil => exact Nat.le_refl _
    | cons c text =>
      rw [Flags.skip.go, List.length_cons]
      split
      · exact Nat.le_succ_of_le (ih text)
      · split
        · exact Nat.le_succ_of_le (Nat.le_trans (ih _) (length_nextLine text))
        · exact Nat.le_refl _

/-- Skipping never makes a text longer. -/
theorem length_skip (flags : Flags) (text : List Char) :
    (flags.skip text).length ≤ text.length := by
  rw [Flags.skip]
  split
  · exact length_go _ text
  · exact Nat.le_refl _

/-- The same value, and what is left is the same text with a closing parenthesis behind it. -/
def Alike {α : Type} (a b : α × List Char) : Prop :=
  a.1 = b.1 ∧ Closed a.2 b.2

private theorem Follows.value {α β : Type} {x y : Except PatternError (α × List Char)}
    (h : Follows Alike x y) (f : α → β) :
    Follows Alike (x >>= fun found => .ok (f found.1, found.2))
      (y >>= fun found => .ok (f found.1, found.2)) :=
  .bind h fun _ _ hab => .ok ⟨congrArg f hab.1, hab.2⟩

/-- In this form a `match` takes it that the pattern of an earlier case does not apply. -/
theorem cons_ne {c d : Char} (h : c ≠ d) (text : List Char) : ∀ more, c :: text ≠ d :: more := by
  rintro _ ⟨⟩
  exact h rfl

variable (flags : Flags) {text longer : List Char}

private theorem readHexDigits_alike (n value : Nat) (h : Closed text longer) :
    Follows Alike (readHexDigits flags n value text) (readHexDigits flags n value longer) := by
  induction n generalizing value text longer with
  | zero => exact .ok ⟨rfl, h⟩
  | succ n ih =>
    induction h using Closed.byHead with
    | nil => exact .error
    | cons c text =>
      rw [readHexDigits, readHexDigits]
      split
      · exact .error
      · exact ih _ ((Closed.shut text).skip flags)

private theorem readHexBraced_alike {fuel fuel' : Nat} (value : Option Nat) (h : Closed text longer)
    (hf : fuel ≤ fuel') :
    Follows Alike (readHexBraced flags fuel value text)
      (readHexBraced flags fuel' value longer) := by
  induction fuel generalizing fuel' value text longer with
  | zero => exact .error
  | succ fuel ih =>
    obtain ⟨fuel', rfl⟩ : ∃ n, fuel' = n + 1 := ⟨fuel' - 1, by omega⟩
    induction h using Closed.byHead with
    | nil => exact .error
    | cons c text =>
      have hskip := (Closed.shut text).skip flags
      unfold readHexBraced
      split
      · split
        · exact .error
        · exact .ok ⟨rfl, hskip⟩
      · split
        · exact .error
        · exact ih _ hskip (Nat.le_of_succ_le_succ hf)

private theorem readHex_alike (digits : Nat) (h : Closed text longer) :
    Follows Alike (readHex flags digits text) (readHex flags digits longer) := by
  unfold readHex
  refine (h.skip flags).byHead (fun _ _ => .error) fun c more => ?_
  by_cases hc : c = '\x7b'
  · subst hc
    refine .bind (readHexBraced_alike flags none ((Closed.shut more).skip flags) (by simp)) ?_
    rintro ⟨value, rest⟩ ⟨_, rest'⟩ ⟨rfl, hrest⟩
    exact .same fun c => .ok ⟨rfl, hrest⟩
  · have hne := cons_ne hc more
    have hne' := cons_ne hc (more ++ [')'])
    simp only
    refine .bind (readHexDigits_alike flags digits 0 (.shut (c :: more))) ?_
    rintro ⟨value, rest⟩ ⟨_, rest'⟩ ⟨rfl, hrest⟩
    dsimp only
    split
    · exact .error
    · exact .same fun c => .ok ⟨rfl, hrest⟩

private theorem readPropertyName_alike {fuel fuel' : Nat} (h : Closed text longer)
    (hf : fuel ≤ fuel') :
    Follows Alike (readPropertyName flags fuel text) (readPropertyName flags fuel' longer) := by
  induction fuel generalizing fuel' text longer with
  | zero => exact .error
  | succ fuel ih =>
    obtain ⟨fuel', rfl⟩ : ∃ n, fuel' = n + 1 := ⟨fuel' - 1, by omega⟩
    unfold readPropertyName
    refine (h.skip flags).byHead (fun _ _ => .error) fun c more => ?_
    by_cases hc : c = '\x7d'
    · subst hc
      exact .ok ⟨rfl, .shut more⟩
    · have hne := cons_ne hc more
      have hne' := cons_ne hc (more ++ [')'])
      simp only
      exact .value (ih (.shut more) (Nat.le_of_succ_le_succ hf)) (c :: ·)

private def propertySet (flags : Flags) (negated : Bool) (bounds : Option (List Nat))
    (unequal : Bool) (rest : List Char) : Except PatternError (CharSet × List Char) := do
  if !flags.unicode then throw .notAscii
  match bounds with
  | none => throw .unknownProperty
  | some bounds =>
    let s := flags.caseClosed ⟨bounds⟩
    if negated != unequal then return (← flags.negated s, rest) else return (s, rest)

private theorem propertySet_alike (negated : Bool) (bounds : Option (List Nat)) (unequal : Bool)
    (h : Closed text longer) :
    Follows Alike (propertySet flags negated bounds unequal text)
      (propertySet flags negated bounds unequal longer) := by
  unfold propertySet
  dsimp only
  split
  · exact .error
  · split
    · exact .error
    · split
      · exact .same fun s => .ok ⟨rfl, h⟩
      · exact .ok ⟨rfl, h⟩

private theorem readProperty_alike (negated : Bool) (h : Closed text longer) :
    Follows Alike (readProperty flags negated text) (readProperty flags negated longer) := by
  unfold readProperty
  refine (h.skip flags).byHead (fun _ _ => .error) fun c more => ?_
  by_cases hc : c = '\x7b'
  · subst hc
    refine .bind (readPropertyName_alike flags (.shut more) (by simp)) ?_
    rintro ⟨name, rest⟩ ⟨_, rest'⟩ ⟨rfl, hrest⟩
    dsimp only
    cases splitProperty name with
    | none => exact propertySet_alike flags negated _ _ hrest
    | some found => exact propertySet_alike flags negated _ _ hrest
  · have hne := cons_ne hc more
    have hne' := cons_ne hc (more ++ [')'])
    simp only
    exact propertySet_alike flags negated _ _ (.shut more)

private theorem letters_alike {fuel fuel' : Nat} (h : Closed text longer)
    (hf : text.length ≤ fuel) (hf' : longer.length ≤ fuel') :
    Alike (readWordAnchor.letters flags fuel text) (readWordAnchor.letters flags fuel' longer) := by
  refine h.rounds hf hf' (fun fuel fuel' longer h => ?_) fun fuel fuel' c text ih => ?_
  · rcases h.eq_of_nil with rfl | rfl <;> cases fuel <;> cases fuel' <;> exact ⟨rfl, h⟩
  · rw [readWordAnchor.letters, readWordAnchor.letters]
    split
    · obtain ⟨hname, hrest⟩ := ih ((Closed.shut text).skip flags) (length_skip flags _)
        (length_skip flags _)
      exact ⟨congrArg (c :: ·) hname, hrest⟩
    · exact ⟨rfl, .shut (c :: text)⟩

private def namedAnchor (flags : Flags) (name : List Char) :
    List Char → Except PatternError (Anchor × List Char)
  | '\x7d' :: rest =>
    if name == "start".toList then .ok (.wordStart flags.wordKind, rest)
    else if name == "end".toList then .ok (.wordEnd flags.wordKind, rest)
    else if name == "start-half".toList then .ok (.beforeWord flags.wordKind, rest)
    else if name == "end-half".toList then .ok (.afterWord flags.wordKind, rest)
    else .error .unknownEscape
  | _ => .error .unknownEscape

private theorem namedAnchor_alike (name : List Char) (h : Closed text longer) :
    Follows Alike (namedAnchor flags name text) (namedAnchor flags name longer) := by
  refine h.byHead (fun _ _ => .error) fun c more => ?_
  by_cases hc : c = '\x7d'
  · subst hc
    have hmore := Closed.shut more
    exact .ite (.ok ⟨rfl, hmore⟩) (.ite (.ok ⟨rfl, hmore⟩) (.ite (.ok ⟨rfl, hmore⟩)
      (.ite (.ok ⟨rfl, hmore⟩) .error)))
  · have hne := cons_ne hc more
    simp only [namedAnchor]
    exact .error

private theorem readWordAnchor_brace (text : List Char) :
    readWordAnchor flags ('\x7b' :: text) = match flags.skip text with
      | [] => .error .unfinishedEscape
      | c :: rest =>
        if c.isAlpha || c == '-' then
          namedAnchor flags (readWordAnchor.letters flags (rest.length + 1) (c :: rest)).1
            (readWordAnchor.letters flags (rest.length + 1) (c :: rest)).2
        else .ok (.wordBoundary flags.wordKind, '\x7b' :: text) := rfl

private theorem readWordAnchor_alike (h : Closed text longer) :
    Follows Alike (readWordAnchor flags text) (readWordAnchor flags longer) := by
  refine h.byHead (fun longer h => ?_) fun c text => ?_
  · rcases h.eq_of_nil with rfl | rfl <;> exact .ok ⟨rfl, h⟩
  · by_cases hc : c = '\x7b'
    · subst hc
      rw [readWordAnchor_brace, readWordAnchor_brace]
      refine ((Closed.shut text).skip flags).byHead (fun _ _ => .error) fun d more => ?_
      refine .ite ?_ (.ok ⟨rfl, .shut ('\x7b' :: text)⟩)
      have hletters : Alike (readWordAnchor.letters flags (more.length + 1) (d :: more))
          (readWordAnchor.letters flags ((more ++ [')']).length + 1) (d :: (more ++ [')']))) :=
        letters_alike flags (.shut (d :: more)) (Nat.le_refl _) (Nat.le_refl _)
      rw [← hletters.1]
      exact namedAnchor_alike flags _ hletters.2
    · have hne := cons_ne hc text
      have hne' := cons_ne hc (text ++ [')'])
      simp only [readWordAnchor]
      exact .ok ⟨rfl, .shut (c :: text)⟩

/-- An escape is read in the same way in front of a closing parenthesis. -/
theorem readEscape_alike (h : Closed text longer) :
    Follows Alike (readEscape flags text) (readEscape flags longer) := by
  refine h.byHead (fun _ _ => .error) fun c text => ?_
  have htext := Closed.shut text
  unfold readEscape
  dsimp only
  split
  · exact .ok ⟨rfl, htext⟩
  · split
    any_goals exact .ok ⟨rfl, htext⟩
    any_goals exact .same fun s => .ok ⟨rfl, htext⟩
    any_goals exact .value (readHex_alike flags _ htext) Atom.literal
    · exact .value (readProperty_alike flags false htext) Atom.set
    · exact .value (readProperty_alike flags true htext) Atom.set
    · exact .value (readWordAnchor_alike flags htext) Atom.anchor
    · exact .error

end CanonicalLR.Pattern
