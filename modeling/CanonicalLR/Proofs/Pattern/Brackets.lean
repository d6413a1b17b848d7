import CanonicalLR.Pattern.Bracket
import CanonicalLR.Proofs.Pattern.Closing

/-! Brackets are read in the same way in front of a closing parenthesis behind the text: where they end
in the text, they end before it. -/
namespace CanonicalLR.Pattern

variable (flags : Flags) {text longer : List Char}

private theorem leading_of_ne {c : Char} (hc : c ≠ '-') (fuel : Nat) (rest : List Char) :
    openBracket.leading flags fuel (c :: rest) = ([], c :: rest) := by
  unfold openBracket.leading
  split
  · exact absurd ‹_› (cons_ne hc rest _)
  · rfl

private theorem leading_alike {fuel fuel' : Nat} (h : Closed text longer)
    (hf : text.length ≤ fuel) (hf' : longer.length ≤ fuel') :
    Alike (openBracket.leading flags fuel text) (openBracket.leading flags fuel' longer) := by
  refine h.rounds hf hf' (fun fuel fuel' longer h => ?_) fun fuel fuel' c text ih => ?_
  · rcases h.eq_of_nil with rfl | rfl <;> cases fuel <;> cases fuel' <;> exact ⟨rfl, h⟩
  · by_cases hc : c = '-'
    · subst hc
      obtain ⟨hhyphens, hrest⟩ := ih ((Closed.shut text).skip flags) (length_skip flags _)
        (length_skip flags _)
      exact ⟨congrArg (CharSet.single '-' :: ·) hhyphens, hrest⟩
    · rw [leading_of_ne flags hc, leading_of_ne flags hc]
      exact ⟨rfl, .shut (c :: text)⟩

private def firstMembers (flags : Flags) (negated : Bool) (hyphens : List CharSet)
    (text : List Char) : Except PatternError (Bracket × List Char) := do
  if text.isEmpty then throw .unclosedClass
  match hyphens, text with
  | [], ']' :: text =>
    let text := flags.skip text
    if text.isEmpty then throw .unclosedClass
    return (⟨negated, none, [.single ']'], 0⟩, text)
  | hyphens, text => return (⟨negated, none, hyphens, 0⟩, text)

private theorem firstMembers_alike (negated : Bool) (hyphens : List CharSet)
    (h : Closed text longer) :
    Follows Alike (firstMembers flags negated hyphens text)
      (firstMembers flags negated hyphens longer) := by
  refine h.byHead (fun _ _ => .error) fun c more => ?_
  cases hyphens with
  | cons s hyphens => exact .ok ⟨rfl, .shut (c :: more)⟩
  | nil =>
    by_cases hc : c = ']'
    · subst hc
      simp only [firstMembers]
      refine ((Closed.shut more).skip flags).byHead (fun _ _ => .error) fun d rest => ?_
      exact .ok ⟨rfl, .shut (d :: rest)⟩
    · have hne : ∀ rest, ([] : List CharSet) = [] → c :: more ≠ ']' :: rest := fun rest _ =>
        cons_ne hc more rest
      have hne' : ∀ rest, ([] : List CharSet) = [] → c :: (more ++ [')']) ≠ ']' :: rest :=
        fun rest _ => cons_ne hc (more ++ [')']) rest
      simp only [firstMembers]
      exact .ok ⟨rfl, .shut (c :: more)⟩

private def negation (flags : Flags) (text : List Char) : Bool × List Char :=
  match flags.skip text with
  | '^' :: text => (true, flags.skip text)
  | text => (false, text)

private theorem negation_alike (h : Closed text longer) :
    Alike (negation flags text) (negation flags longer) := by
  unfold negation
  refine (h.skip flags).byHead (fun longer h => ?_) fun c more => ?_
  · rcases h.eq_of_nil with rfl | rfl <;> exact ⟨rfl, h⟩
  · by_cases hc : c = '^'
    · subst hc
      exact ⟨rfl, (Closed.shut more).skip flags⟩
    · have hne := cons_ne hc more
      have hne' := cons_ne hc (more ++ [')'])
      simp only
      exact ⟨rfl, .shut (c :: more)⟩

private theorem openBracket_eq (text : List Char) :
    openBracket flags text = firstMembers flags (negation flags text).1
      (openBracket.leading flags (negation flags text).2.length (negation flags text).2).1
      (openBracket.leading flags (negation flags text).2.length (negation flags text).2).2 := rfl

private theorem openBracket_alike (h : Closed text longer) :
    Follows Alike (openBracket flags text) (openBracket flags longer) := by
  obtain ⟨hnegated, hrest⟩ := negation_alike flags h
  obtain ⟨hhyphens, hrest⟩ := leading_alike flags hrest (Nat.le_refl _) (Nat.le_refl _)
  rw [openBracket_eq, openBracket_eq, ← hnegated, ← hhyphens]
  exact firstMembers_alike flags _ _ hrest

private def shutSet (found : CharSet × Bool × List Char) : CharSet × Bool × List Char :=
  (found.1, found.2.1, found.2.2 ++ [')'])

private def namedSetEnd (negated : Bool) (text : List Char) : Option (CharSet × Bool × List Char) :=
  match text.dropWhile (· != ':') with
  | ':' :: ']' :: rest =>
    (CharSet.named? (String.ofList (text.takeWhile (· != ':')))).map fun s => (s, negated, rest)
  | _ => none

private theorem namedSetEnd_shut (negated : Bool) (text : List Char) :
    namedSetEnd negated (text ++ [')']) = (namedSetEnd negated text).map shutSet := by
  unfold namedSetEnd
  by_cases hdrop : text.dropWhile (· != ':') = []
  · rw [List.dropWhile_append, hdrop]
    rfl
  · rw [dropWhile_shut_of_ne hdrop, takeWhile_shut hdrop]
    rcases text.dropWhile (· != ':') with _ | ⟨c, _ | ⟨d, rest⟩⟩
    · rfl
    · by_cases hc : c = ':'
      · subst hc
        rfl
      · have hne : ∀ rest, [c, ')'] ≠ ':' :: ']' :: rest := fun rest => cons_ne hc [')'] _
        have hne' : ∀ rest, [c] ≠ ':' :: ']' :: rest := fun rest => cons_ne hc [] _
        simp only [List.cons_append, List.nil_append, Option.map_none]
    · by_cases hcd : c = ':' ∧ d = ']'
      · obtain ⟨rfl, rfl⟩ := hcd
        show _ = ((CharSet.named? _).map fun s => (s, negated, rest)).map shutSet
        rw [Option.map_map]
        rfl
      · have hne : ∀ more tail, c :: d :: more ≠ ':' :: ']' :: tail := by
          rintro _ _ ⟨⟩
          exact hcd ⟨rfl, rfl⟩
        have hne' := hne rest
        have hne'' := hne (rest ++ [')'])
        simp only [List.cons_append, Option.map_none]

private theorem namedSet?_shut (text : List Char) :
    namedSet? (text ++ [')']) = (namedSet? text).map shutSet := by
  rcases text with _ | ⟨c, text⟩
  · rfl
  · by_cases hc : c = ':'
    · subst hc
      rcases text with _ | ⟨d, rest⟩
      · rfl
      · by_cases hd : d = '^'
        · subst hd
          exact namedSetEnd_shut true rest
        · have hne := cons_ne hd rest
          have hne' := cons_ne hd (rest ++ [')'])
          simp only [namedSet?, List.cons_append]
          exact namedSetEnd_shut false (d :: rest)
    · have hne := cons_ne hc text
      have hne' := cons_ne hc (text ++ [')'])
      simp only [namedSet?, List.cons_append, Option.map_none]

private theorem readMember_alike (h : Closed text longer) :
    Follows Alike (readMember flags text) (readMember flags longer) := by
  refine h.byHead (fun _ _ => .error) fun c text => ?_
  by_cases hc : c = '\\'
  · subst hc
    exact readEscape_alike flags (.shut text)
  · have hne := cons_ne hc text
    have hne' := cons_ne hc (text ++ [')'])
    simp only [readMember]
    exact .ok ⟨rfl, .shut text⟩

private theorem head?_shut (text : List Char) {c : Char} (hc : c ≠ ')') :
    (text ++ [')']).head? = some c ↔ text.head? = some c := by
  cases text with
  | nil => simp [hc.symm]
  | cons d text => rfl

private def ahead (text : List Char) : List Char :=
  let next := text.dropWhile Text.isBlank
  if next.head? == some '#' then (next.drop 1).dropWhile Text.isBlank else next

private theorem ahead_shut (text : List Char) : ahead (text ++ [')']) = ahead text ++ [')'] := by
  have hshut : Text.isBlank ')' = false := by decide
  unfold ahead
  rw [dropWhile_shut text hshut]
  cases text.dropWhile Text.isBlank with
  | nil => rfl
  | cons c rest =>
    by_cases hc : c = '#'
    · subst hc
      exact dropWhile_shut rest hshut
    · simp [hc]

private theorem head_of_ahead_nil {text : List Char} (h : ahead text = []) {c : Char}
    (hc : text.head? = some c) : Text.isBlank c ∨ c = '#' := by
  cases text with
  | nil => cases hc
  | cons d text =>
    obtain rfl := Option.some.inj hc
    by_cases hblank : Text.isBlank d
    · exact .inl hblank
    · by_cases hd : d = '#'
      · exact .inr hd
      · simp [ahead, hblank, hd] at h

private theorem peek_shut (text : List Char) {c : Char} (hblank : Text.isBlank c = false)
    (hsign : c ≠ '#') (hc : c ≠ ')') :
    flags.peek (text ++ [')']) = some c ↔ flags.peek text = some c := by
  unfold Flags.peek
  split
  · show ((ahead (text ++ [')'])).head? <|> _) = some c ↔ ((ahead text).head? <|> _) = some c
    rw [ahead_shut]
    cases htext : ahead text with
    | nil =>
      refine iff_of_false (fun h => hc.symm (Option.some.inj h)) fun h => ?_
      rcases head_of_ahead_nil htext h with hc' | hc'
      · exact Bool.false_ne_true (hblank.symm.trans hc')
      · exact hsign hc'
    | cons d rest => rfl
  · exact head?_shut text hc

private def behindHyphen (flags : Flags) (first : Atom) (text : List Char) :
    Except PatternError (CharSet × List Char) := do
  if flags.peek text == some ']' || flags.peek text == some '-' then
    return (← first.toSet flags, '-' :: text)
  match flags.skip text with
  | [] => throw .unclosedClass
  | text =>
    let (last, rest) ← readMember flags text
    let first ← first.toChar flags
    let last ← last.toChar flags
    if last < first then throw .reversedRange
    return (.range first last, rest)

private theorem behindHyphen_alike (first : Atom) (text : List Char) :
    Follows Alike (behindHyphen flags first text) (behindHyphen flags first (text ++ [')'])) := by
  have hpeek : ∀ c, Text.isBlank c = false → c ≠ '#' → c ≠ ')' →
      (flags.peek (text ++ [')']) == some c) = (flags.peek text == some c) := by
    intro c hblank hsign hc
    rw [Bool.eq_iff_iff, beq_iff_eq, beq_iff_eq]
    exact peek_shut flags text hblank hsign hc
  unfold behindHyphen
  rw [hpeek ']' (by decide) (by decide) (by decide), hpeek '-' (by decide) (by decide) (by decide)]
  refine .ite (.same fun s => .ok ⟨rfl, .shut ('-' :: text)⟩) ?_
  refine ((Closed.shut text).skip flags).byHead (fun _ _ => .error) fun c more => ?_
  refine .bind (readMember_alike flags (.shut (c :: more))) ?_
  rintro ⟨last, rest⟩ ⟨_, rest'⟩ ⟨rfl, hrest⟩
  exact .same fun first => .same fun last => .ite .error (.ok ⟨rfl, hrest⟩)

private theorem readRange_alike (h : Closed text longer) :
    Follows Alike (readRange flags text) (readRange flags longer) := by
  refine .bind (readMember_alike flags h) ?_
  rintro ⟨first, rest⟩ ⟨_, rest'⟩ ⟨rfl, hrest⟩
  change Closed rest rest' at hrest
  dsimp only
  refine (hrest.skip flags).byHead (fun _ _ => .error) fun c more => ?_
  by_cases hc : c = '-'
  · subst hc
    exact behindHyphen_alike flags first more
  · have hne := cons_ne hc more
    have hne' := cons_ne hc (more ++ [')'])
    simp only
    exact .same fun s => .ok ⟨rfl, .shut (c :: more)⟩

private def operator? (c : Char) (text : List Char) : Option SetOp :=
  if text.head? = some c then
    if c = '&' then some .inter else if c = '-' then some .diff else if c = '~' then some .symmDiff
    else none
  else none

private theorem operator?_shut (c : Char) (text : List Char) :
    operator? c (text ++ [')']) = operator? c text := by
  unfold operator?
  by_cases hc : c = ')'
  · subst hc
    simp
  · simp only [head?_shut text hc]

private theorem operator?_some {c : Char} {text : List Char} {op : SetOp}
    (h : operator? c text = some op) : ∃ rest, text = c :: rest := by
  unfold operator? at h
  split at h
  · exact List.head?_eq_some_iff.1 ‹_›
  · cases h

private def bracketRound (flags : Flags) (fuel : Nat) (b : Bracket) (outer : List Bracket) (c : Char)
    (text : List Char) : Except PatternError (CharSet × Nat × List Char) :=
  if c = '[' then match namedSet? text with
    | some (s, negated, rest) => do
      let s := flags.caseClosed s
      let s ← if negated then flags.negated s else pure s
      readBrackets flags fuel (b.add s 0) outer rest
    | none => do
      let (inner, rest) ← openBracket flags text
      readBrackets flags fuel inner (b :: outer) rest
  else if c = ']' then do
    let s ← b.close flags
    let depth := b.totalDepth + 1
    match outer with
    | [] => return (s, depth, text)
    | parent :: outer => readBrackets flags fuel (parent.add s depth) outer text
  else match operator? c text with
    | some op => readBrackets flags fuel (b.operator flags op) outer (text.drop 1)
    | none => do
      let (s, rest) ← readRange flags (c :: text)
      readBrackets flags fuel (b.add s 0) outer rest

private theorem readBrackets_eq (fuel : Nat) (b : Bracket) (outer : List Bracket)
    (text : List Char) :
    readBrackets flags (fuel + 1) b outer text = match flags.skip text with
      | [] => .error .unclosedClass
      | c :: text => bracketRound flags fuel b outer c text := by
  rw [readBrackets]
  cases flags.skip text with
  | nil => rfl
  | cons c text =>
    unfold bracketRound
    dsimp only
    split
    · contradiction
    iterate 5
      rename_i heq
      cases heq
      rfl
    · rename_i hopen hclose hand hminus htilde
      have hc : c ≠ '[' := fun h => hopen text (congrArg (· :: text) h)
      have hc' : c ≠ ']' := fun h => hclose text (congrArg (· :: text) h)
      have hop : operator? c text = none := by
        unfold operator?
        split
        · rename_i hhead
          obtain ⟨rest, rfl⟩ := List.head?_eq_some_iff.1 hhead
          rw [if_neg fun h => hand rest (by rw [h]), if_neg fun h => hminus rest (by rw [h]),
            if_neg fun h => htilde rest (by rw [h])]
        · rfl
      rw [if_neg hc, if_neg hc', hop]

/-- The same for a reader that returns two values. -/
def AlikePair {α β : Type} (a b : α × β × List Char) : Prop :=
  a.1 = b.1 ∧ a.2.1 = b.2.1 ∧ Closed a.2.2 b.2.2

private theorem readBrackets_alike {fuel fuel' : Nat} (b : Bracket) (outer : List Bracket)
    (h : Closed text longer) (hf : fuel ≤ fuel') :
    Follows AlikePair (readBrackets flags fuel b outer text)
      (readBrackets flags fuel' b outer longer) := by
  induction fuel generalizing fuel' b outer text longer with
  | zero => exact .error
  | succ fuel ih =>
    obtain ⟨fuel', rfl⟩ : ∃ n, fuel' = n + 1 := ⟨fuel' - 1, by omega⟩
    have hf := Nat.le_of_succ_le_succ hf
    rw [readBrackets_eq, readBrackets_eq]
    refine (h.skip flags).byHead (fun _ _ => .error) fun c more => ?_
    refine .ite ?_ (.ite (.same fun s => ?_) ?_)
    · rw [namedSet?_shut]
      cases namedSet? more with
      | none =>
        refine .bind (openBracket_alike flags (.shut more)) ?_
        rintro ⟨inner, rest⟩ ⟨_, rest'⟩ ⟨rfl, hrest⟩
        exact ih inner (b :: outer) hrest hf
      | some found =>
        exact .ite (.same fun s => ih _ outer (.shut _) hf) (ih _ outer (.shut _) hf)
    · cases outer with
      | nil => exact .ok ⟨rfl, rfl, .shut more⟩
      | cons parent outer => exact ih _ outer (.shut more) hf
    · rw [operator?_shut]
      cases hop : operator? c more with
      | some op =>
        obtain ⟨rest, rfl⟩ := operator?_some hop
        exact ih _ outer (.shut rest) hf
      | none =>
        refine .bind (readRange_alike flags (.shut (c :: more))) ?_
        rintro ⟨s, rest⟩ ⟨_, rest'⟩ ⟨rfl, hrest⟩
        exact ih _ outer hrest hf

/-- A bracket is read in the same way in front of a closing parenthesis. -/
theorem readBracket_alike (h : Closed text longer) :
    Follows AlikePair (readBracket flags text) (readBracket flags longer) := by
  refine .bind (openBracket_alike flags h) ?_
  rintro ⟨b, rest⟩ ⟨_, rest'⟩ ⟨rfl, hrest⟩
  exact readBrackets_alike flags b [] hrest (Nat.succ_le_succ hrest.le_length)

end CanonicalLR.Pattern
