import CanonicalLR.Pattern.Reader
import CanonicalLR.Proofs.Pattern.Brackets

/-! A pattern text that can be read by itself can be read between the parentheses of a group. The
parenthesis behind it ends this group and none before it does, unless the text ends in a comment, which
takes the parenthesis in. -/
namespace CanonicalLR.Pattern

section Alike

variable (flags : Flags) {text longer : List Char}

private theorem readFlags_alike (off : Bool) (seen : List Char) (h : Closed text longer) :
    Follows (fun a b => Alike a b ∧ a.2 ≠ []) (readFlags flags off seen text)
      (readFlags flags off seen longer) := by
  induction text generalizing flags off seen longer with
  | nil => exact .error
  | cons c text ih =>
    cases h with
    | shut =>
      rw [List.cons_append, readFlags, readFlags]
      refine .ite (.ite .error (.ok ⟨⟨rfl, .shut (c :: text)⟩, List.cons_ne_nil _ _⟩))
        (.ite .error (.ite (ih flags true _ (.shut text)) ?_))
      cases flags.set? c (!off) with
      | none => exact .error
      | some flags => exact ih flags off _ (.shut text)

private theorem readGroupName_alike (names : List (List Char)) (h : Closed text longer) :
    Follows Alike (readGroupName names text) (readGroupName names longer) := by
  cases h with
  | nil => exact .error
  | shut text =>
    unfold readGroupName
    dsimp only
    cases hrest : text.dropWhile (· != '>') with
    | nil =>
      split
      · contradiction
      · exact .error
    | cons d rest =>
      have hne : text.dropWhile (· != '>') ≠ [] := by
        rw [hrest]
        exact List.cons_ne_nil _ _
      rw [takeWhile_shut hne, dropWhile_shut_of_ne hne, hrest, List.cons_append]
      split
      · rename_i hname heq
        cases heq
        simp only [hname]
        exact .ite .error (.ite .error (.ok ⟨rfl, .shut _⟩))
      · exact .error

private theorem digits_alike {fuel fuel' : Nat} (h : Closed text longer)
    (hf : text.length ≤ fuel) (hf' : longer.length ≤ fuel') :
    ∀ value, Alike (readNumber.digits flags fuel value text)
      (readNumber.digits flags fuel' value longer) := by
  refine h.rounds hf hf' (fun fuel fuel' longer h value => ?_) fun fuel fuel' c text ih value => ?_
  · rcases h.eq_of_nil with rfl | rfl <;> cases fuel <;> cases fuel' <;> exact ⟨rfl, h⟩
  · rw [readNumber.digits, readNumber.digits]
    split
    · exact ih ((Closed.shut text).skip flags) (length_skip flags _) (length_skip flags _) _
    · exact ⟨rfl, .shut (c :: text)⟩

private theorem Closed.dropBlanks (h : Closed text longer) :
    Closed (text.dropWhile Text.isBlank) (longer.dropWhile Text.isBlank) := by
  cases h with
  | shut text =>
    rw [dropWhile_shut text (by decide)]
    exact .shut _
  | nil => exact .nil

private def numberEnd (flags : Flags) (value : Option Nat) (rest : List Char) :
    Except PatternError (Nat × List Char) := do
  match value with
  | some value =>
    if value < Nat.pow 2 32 then
      return (value, (flags.skip (rest.dropWhile Text.isBlank)).dropWhile Text.isBlank)
    else throw .badNumber
  | none => throw .badNumber

private theorem readNumber_eq (text : List Char) :
    readNumber flags text = numberEnd flags
      (readNumber.digits flags (text.length + 1) none (text.dropWhile Text.isBlank)).1
      (readNumber.digits flags (text.length + 1) none (text.dropWhile Text.isBlank)).2 := rfl

private theorem readNumber_alike (h : Closed text longer) :
    Follows Alike (readNumber flags text) (readNumber flags longer) := by
  have hlength : ∀ text : List Char, (text.dropWhile Text.isBlank).length ≤ text.length + 1 :=
    fun text => Nat.le_succ_of_le (List.dropWhile_sublist _).length_le
  obtain ⟨hvalue, hrest⟩ := digits_alike flags h.dropBlanks (hlength text) (hlength longer) none
  rw [readNumber_eq, readNumber_eq, ← hvalue]
  unfold numberEnd
  split
  · exact .ite (.ok ⟨rfl, (hrest.dropBlanks.skip flags).dropBlanks⟩) .error
  · exact .error

private def countMost (flags : Flags) (least : Nat) (text : List Char) :
    Except PatternError (Nat × Option Nat × List Char) := do
  match flags.skip text with
  | '\x7d' :: rest => return (least, none, rest)
  | rest =>
    let (most, rest) ← readNumber flags rest
    match rest with
    | '\x7d' :: rest =>
      if most < least then throw .reversedCount
      return (least, some most, rest)
    | _ => throw .unclosedCount

private theorem countMost_alike (least : Nat) (h : Closed text longer) :
    Follows AlikePair (countMost flags least text) (countMost flags least longer) := by
  unfold countMost
  refine (h.skip flags).byHead (fun _ _ => .error) fun c more => ?_
  by_cases hc : c = '\x7d'
  · subst hc
    exact .ok ⟨rfl, rfl, .shut more⟩
  · have hne := cons_ne hc more
    have hne' := cons_ne hc (more ++ [')'])
    simp only
    refine .bind (readNumber_alike flags (.shut (c :: more))) ?_
    rintro ⟨most, rest⟩ ⟨_, rest'⟩ ⟨rfl, hrest⟩
    change Closed rest rest' at hrest
    refine hrest.byHead (fun _ _ => .error) fun d rest => ?_
    by_cases hd : d = '\x7d'
    · subst hd
      exact .ite .error (.ok ⟨rfl, rfl, .shut rest⟩)
    · have hne := cons_ne hd rest
      simp only
      exact .error

private theorem readCount_alike (h : Closed text longer) :
    Follows AlikePair (readCount flags text) (readCount flags longer) := by
  refine .bind (readNumber_alike flags (h.skip flags)) ?_
  rintro ⟨least, rest⟩ ⟨_, rest'⟩ ⟨rfl, hrest⟩
  change Closed rest rest' at hrest
  refine hrest.byHead (fun _ _ => .error) fun c rest => ?_
  by_cases hc : c = '\x7d'
  · subst hc
    exact .ok ⟨rfl, rfl, .shut rest⟩
  · by_cases hc' : c = ','
    · subst hc'
      exact countMost_alike flags least (.shut rest)
    · have hne := cons_ne hc rest
      have hne' := cons_ne hc' rest
      simp only
      exact .error

end Alike

private def namedStart (r : Reading) (text : List Char) :
    Except PatternError (Reading × List Char) :=
  readGroupName r.names text >>= fun found =>
    .ok ({ r.openCapture with names := found.1 :: r.names }, found.2)

private def flagStart (r : Reading) (text : List Char) : Except PatternError (Reading × List Char) :=
  readFlags r.flags false [] text >>= fun found =>
    if found.2.head? = some ':' then .ok (r.openGroup found.1, found.2.drop 1)
    else if text.head? == some ')' then .error .noFlags
    else .ok ({ r with flags := found.1, group := r.group.add .setting }, found.2.drop 1)

private def specialStart (r : Reading) : List Char → Except PatternError (Reading × List Char)
  | [] => .error .unclosedGroup
  | c :: text =>
    if c = '=' ∨ c = '!' then .error .lookAround
    else if c = '<' then match text with
      | [] => .error .badGroupName
      | d :: rest =>
        if d = '=' ∨ d = '!' then .error .lookAround else namedStart r (d :: rest)
    else if c = 'P' then match text with
      | [] => .error .unknownFlag
      | d :: rest => if d = '<' then namedStart r rest else .error .unknownFlag
    else flagStart r (c :: text)

private theorem specialStart_eq (r : Reading) {text : List Char}
    (hlook : ∀ rest, text ≠ '=' :: rest ∧ text ≠ '!' :: rest)
    (hnamed : ∀ rest, text ≠ 'P' :: '<' :: rest ∧ text ≠ '<' :: rest) :
    specialStart r text = flagStart r text := by
  cases text with
  | nil => rfl
  | cons c text =>
    have hc : ¬(c = '=' ∨ c = '!') := by
      rintro (rfl | rfl)
      · exact (hlook text).1 rfl
      · exact (hlook text).2 rfl
    have hc' : c ≠ '<' := by
      rintro rfl
      exact (hnamed text).2 rfl
    unfold specialStart
    dsimp only
    rw [if_neg hc, if_neg hc']
    split
    · subst c
      cases text with
      | nil => rfl
      | cons d rest =>
        have hd : d ≠ '<' := by
          rintro rfl
          exact (hnamed rest).1 rfl
        exact if_neg hd
    · rfl

private theorem readGroupStart_eq (r : Reading) (text : List Char) :
    readGroupStart r text = match r.flags.skip text with
      | [] => .ok (r.openCapture, [])
      | c :: text => if c = '?' then specialStart r text else .ok (r.openCapture, c :: text) := by
  unfold readGroupStart
  cases r.flags.skip text with
  | nil => rfl
  | cons c text =>
    dsimp only
    split
    any_goals
      rename_i heq
      cases heq
      rfl
    · rename_i text hequal hbang heq
      cases heq
      show namedStart r text = specialStart r ('<' :: text)
      cases text with
      | nil => rfl
      | cons d rest =>
        have hd : ¬(d = '=' ∨ d = '!') := by
          rintro (rfl | rfl)
          · exact hequal rest rfl
          · exact hbang rest rfl
        exact (if_neg hd).symm
    · rename_i text hequal hbang _ _ hnamed hnamed' heq
      cases heq
      rw [if_pos rfl, specialStart_eq r (fun rest => ⟨hequal rest, hbang rest⟩)
        (fun rest => ⟨hnamed rest, hnamed' rest⟩)]
      refine congrArg (readFlags r.flags false [] text >>= ·) ?_
      funext ⟨flags, rest⟩
      cases rest with
      | nil => rfl
      | cons d rest =>
        by_cases hd : d = ':'
        · subst hd
          rfl
        · have hne := cons_ne hd rest
          have hhead : (d :: rest).head? ≠ some ':' := fun h => hd (Option.some.inj h)
          simp only [if_neg hhead]
          rfl
    · rename_i hother
      have hc : c ≠ '?' := by
        rintro rfl
        exact hother text rfl
      rw [if_neg hc]

def Reading.within (shell : Group) (r : Reading) : Reading :=
  { r with outer := r.outer ++ [shell] }

/-- The second reading goes on inside one more group, in front of the same text with a closing
parenthesis behind it. -/
def Within (shell : Group) (a b : Reading × List Char) : Prop :=
  b.1 = a.1.within shell ∧ Closed a.2 b.2

section Within

variable (shell : Group) (r : Reading) {text longer : List Char}

private theorem namedStart_within (h : Closed text longer) :
    Follows (Within shell) (namedStart r text) (namedStart (r.within shell) longer) := by
  refine .bind (readGroupName_alike r.names h) ?_
  rintro ⟨name, rest⟩ ⟨_, rest'⟩ ⟨rfl, hrest⟩
  exact .ok ⟨rfl, hrest⟩

private theorem flagStart_within (c : Char) (text : List Char) :
    Follows (Within shell) (flagStart r (c :: text))
      (flagStart (r.within shell) (c :: (text ++ [')']))) := by
  refine .bind (readFlags_alike r.flags false [] (.shut (c :: text))) ?_
  rintro ⟨flags, rest⟩ ⟨_, rest'⟩ ⟨⟨rfl, hrest⟩, hne⟩
  change Closed rest rest' at hrest
  induction hrest using Closed.byHead with
  | nil => exact absurd rfl hne
  | cons d more =>
    exact .ite (.ok ⟨rfl, .shut more⟩) (.ite .error (.ok ⟨rfl, .shut more⟩))

private theorem specialStart_within (text : List Char) :
    Follows (Within shell) (specialStart r text)
      (specialStart (r.within shell) (text ++ [')'])) := by
  refine (Closed.shut text).byHead (fun _ _ => .error) fun c more => ?_
  refine .ite .error (.ite ?_ (.ite ?_ (flagStart_within shell r c more)))
  · refine (Closed.shut more).byHead (fun _ _ => .error) fun d rest => ?_
    exact .ite .error (namedStart_within shell r (.shut (d :: rest)))
  · refine (Closed.shut more).byHead (fun _ _ => .error) fun d rest => ?_
    exact .ite (namedStart_within shell r (.shut rest)) .error

private theorem readGroupStart_within (h : Closed text longer) :
    Follows (Within shell) (readGroupStart r text) (readGroupStart (r.within shell) longer) := by
  rw [readGroupStart_eq, readGroupStart_eq]
  have hskip : Closed (r.flags.skip text) ((r.within shell).flags.skip longer) := h.skip r.flags
  refine hskip.byHead (fun longer h => ?_) fun c more => ?_
  · rcases h.eq_of_nil with rfl | rfl <;> exact .ok ⟨rfl, h⟩
  · exact .ite (specialStart_within shell r more) (.ok ⟨rfl, .shut (c :: more)⟩)

private theorem iterateLast_within (least : Nat) (most : Option Nat) (h : Closed text longer) :
    Follows (Within shell) (iterateLast r least most text)
      (iterateLast (r.within shell) least most longer) := by
  refine .same fun ⟨⟨body, depth⟩, group⟩ => ?_
  refine h.byHead (fun longer h => ?_) fun c more => ?_
  · rcases h.eq_of_nil with rfl | rfl <;> exact .ok ⟨rfl, h⟩
  · by_cases hc : c = '?'
    · subst hc
      exact .ok ⟨rfl, .shut more⟩
    · have hne := cons_ne hc more
      have hne' := cons_ne hc (more ++ [')'])
      simp only
      exact .ok ⟨rfl, .shut (c :: more)⟩

private theorem readPiece_within (c : Char) (text : List Char) :
    Follows (Within shell) (readPiece r c text)
      (readPiece (r.within shell) c (text ++ [')'])) := by
  have htext := Closed.shut text
  unfold readPiece
  split
  · exact readGroupStart_within shell r htext
  · obtain ⟨flags, group, outer, names, captures⟩ := r
    cases outer with
    | nil => exact .error
    | cons parent outer => exact .ok ⟨rfl, htext⟩
  · exact .ok ⟨rfl, htext⟩
  · refine .bind (readBracket_alike r.flags htext) ?_
    rintro ⟨s, depth, rest⟩ ⟨_, _, rest'⟩ ⟨rfl, rfl, hrest⟩
    exact .ok ⟨rfl, hrest⟩
  · exact iterateLast_within shell r 0 (some 1) htext
  · exact iterateLast_within shell r 0 none htext
  · exact iterateLast_within shell r 1 none htext
  · refine .same fun _ => .bind (readCount_alike r.flags htext) ?_
    rintro ⟨least, most, rest⟩ ⟨_, _, rest'⟩ ⟨rfl, rfl, hrest⟩
    exact iterateLast_within shell r least most (hrest.skip r.flags)
  · refine .bind (readEscape_alike r.flags htext) ?_
    rintro ⟨atom, rest⟩ ⟨_, rest'⟩ ⟨rfl, hrest⟩
    exact .ok ⟨rfl, hrest⟩
  · exact .same fun _ => .ok ⟨rfl, htext⟩
  · exact .ok ⟨rfl, htext⟩
  · exact .ok ⟨rfl, htext⟩
  · exact .ok ⟨rfl, htext⟩

/-- A text that can be read by itself ends the group around it at the parenthesis behind it, unless
that is part of a comment. -/
theorem readPieces_within {fuel fuel' : Nat} {text longer : List Char} (h : Closed text longer)
    (hf : fuel < fuel') {p : Nested} (hp : readPieces fuel r text = .ok p) :
    readPieces fuel' (r.within shell) longer = .error .unclosedGroup ∨
      ∃ group : Group, readPieces fuel' (r.within shell) longer =
        .ok (shell.add (.plain group.close)).content := by
  induction fuel generalizing fuel' r text longer with
  | zero => cases hp
  | succ fuel ih =>
    obtain ⟨fuel', rfl⟩ : ∃ n, fuel' = n + 2 := ⟨fuel' - 2, by omega⟩
    have hskip : Closed (r.flags.skip text) ((r.within shell).flags.skip longer) := h.skip r.flags
    rw [readPieces] at hp ⊢
    revert hp
    refine hskip.byHead (fun longer h hp => ?_) fun c more hp => ?_
    -- at its end the text has closed all groups that it opened, so the shell is the only one left
    · obtain ⟨flags, group, outer, names, captures⟩ := r
      cases outer with
      | cons parent outer => cases hp
      | nil =>
        rcases h.eq_of_nil with rfl | rfl
        · refine .inr ⟨group, ?_⟩
          show readPieces (fuel' + 1) ⟨group.outerFlags, shell.add (.plain group.close), [], names,
            captures⟩ [] = _
          rw [readPieces, skip_nil]
          rfl
        · exact .inl rfl
    · obtain ⟨⟨r', rest⟩, hpiece, hp⟩ := except_bind_ok hp
      obtain ⟨⟨_, rest'⟩, hpiece', rfl, hrest⟩ := readPiece_within shell r c more _ hpiece
      dsimp only
      rw [hpiece']
      exact ih r' hrest (by omega) hp

end Within

/-- The pattern begins with the anchor of the start of the text. -/
def Tied (p : Pattern) : Prop :=
  p = .anchor .textStart ∨ ∃ rest, p = .seq (.anchor .textStart) rest

def tiedShell (flags : Flags) : Group :=
  ⟨flags, none, [], [.plain ⟨.anchor .textStart, 0⟩]⟩

def Reading.start (flags : Flags) : Reading :=
  ⟨flags, ⟨flags, none, [], []⟩, [], [], 0⟩

private theorem tied_content (flags : Flags) (p : Nested) :
    ((tiedShell flags).add (.plain p)).content.pattern.Tied := by
  show (alternation [nest seq (.anchor .textStart :: joinLiterals (p.pattern.parts ++ []))]).Tied
  cases joinLiterals (p.pattern.parts ++ []) with
  | nil => exact .inl rfl
  | cons q rest => exact .inr ⟨_, rfl⟩

/-- The anchor and the opening parenthesis take two rounds. -/
private theorem readPieces_tied (ignoreCase : Bool) (fuel : Nat) (text : List Char) :
    readPieces (fuel + 2) (.start { ignoreCase }) ('^' :: '(' :: '?' :: ':' :: text) =
      readPieces fuel ((Reading.start { ignoreCase }).within (tiedShell { ignoreCase })) text := rfl

/-- A pattern text that can be read by itself does not get away from the anchor it is tied to. -/
theorem read_tied {ignoreCase : Bool} {text : String} {p q : Pattern}
    (hp : read { ignoreCase } text = .ok p)
    (hq : read { ignoreCase } ("^(?:" ++ text ++ ")") = .ok q) : q.Tied := by
  obtain ⟨alone, halone, -⟩ := except_bind_ok hp
  obtain ⟨tied, htied, hq⟩ := except_bind_ok hq
  have hq : q = tied.pattern := by
    dsimp only at hq
    split at hq
    · cases hq
    · cases hq
      rfl
  have htext : ("^(?:" ++ text ++ ")").toList =
      '^' :: '(' :: '?' :: ':' :: (text.toList ++ [')']) := by
    simp
  have hinside : readPieces (text.toList.length + 4)
      ((Reading.start { ignoreCase }).within (tiedShell { ignoreCase })) (text.toList ++ [')']) =
        .ok tied := by
    rw [htext] at htied
    simp only [List.length_cons, List.length_append] at htied
    exact (readPieces_tied ignoreCase _ _).symm.trans htied
  have hfuel : text.toList.length + 1 < text.toList.length + 4 := by omega
  have hwithin := readPieces_within (tiedShell { ignoreCase }) (.start { ignoreCase })
    (.shut text.toList) hfuel halone
  rw [hinside] at hwithin
  rcases hwithin with herror | ⟨group, hok⟩
  · cases herror
  · cases hok
    rw [hq]
    exact tied_content _ group.close

end CanonicalLR.Pattern
