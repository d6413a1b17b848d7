import CanonicalLR.Pattern.Match

/-! Programs that read a character of one set and then as many of another as there are, and what they
match at the start of a text. -/
namespace CanonicalLR.Pattern.Program

variable {prog : Program} {first set : CharSet} {pc next : Nat}

/-- A place that can be the end, or read a character of the set and be the same place again. -/
def Repeats (prog : Program) (set : CharSet) (next pc : Nat) : Prop :=
  ∀ before after, prog.front before after [pc] = ⟨[(set, next)], true⟩

/-- A program that reads one character of a set at the start of the text, and goes on at `pc`. -/
structure Opens (prog : Program) (first : CharSet) (pc : Nat) : Prop where
  atStartOnly : prog.atStartOnly = true
  front : ∀ after, prog.front none after [0] = ⟨[(first, pc)], false⟩

private theorem run_repeats (h : prog.Repeats set pc pc) (before : Option Char) (text : List Char)
    (taken : Nat) (best : Option Nat) :
    prog.run before text [pc] taken best =
      some (taken + (text.takeWhile set.contains).length) := by
  induction text generalizing before taken best with
  | nil => simp [run, h before none]
  | cons c text ih =>
    rw [run]
    simp only [h before (some c), if_true]
    by_cases hc : set.contains c = true
    · simp [hc, ih]
      omega
    · simp [hc]

/-- The first place of a repetition may have an address of its own. -/
private theorem run_enters (h : prog.Repeats set next pc) (hnext : prog.Repeats set next next)
    (before : Option Char) (text : List Char) (taken : Nat) (best : Option Nat) :
    prog.run before text [pc] taken best =
      some (taken + (text.takeWhile set.contains).length) := by
  cases text with
  | nil => simp [run, h before none]
  | cons c text =>
    rw [run]
    simp only [h before (some c), if_true]
    by_cases hc : set.contains c = true
    · simp [hc, run_repeats hnext]
      omega
    · simp [hc]

private theorem find_cons (h : prog.Opens first pc) (c : Char) (text : List Char) :
    prog.find (c :: text) = if first.contains c then
      (prog.run (some c) text [pc] 1 none).map fun n => ⟨[], (c :: text).take n⟩ else none := by
  rw [find, matchAt, run]
  simp only [h.front, h.atStartOnly, if_true]
  by_cases hc : first.contains c = true
  · simp [hc]
    cases prog.run (some c) text [pc] 1 none <;> rfl
  · simp [hc]

private theorem find_of_repeats (h : prog.Opens first pc) (hpc : prog.Repeats set next pc)
    (hnext : prog.Repeats set next next) (c : Char) (text : List Char) :
    prog.find (c :: text) = if first.contains c then
      some ⟨[], c :: text.takeWhile set.contains⟩ else none := by
  have htake : text.take (text.takeWhile set.contains).length = text.takeWhile set.contains :=
    (List.prefix_iff_eq_take.1 (List.takeWhile_prefix _)).symm
  simp [find_cons h, run_enters hpc hnext, Nat.add_comm 1, htake]

private theorem find_of_ended (h : prog.Opens first pc)
    (hpc : ∀ before after, prog.front before after [pc] = ⟨[], true⟩) (c : Char)
    (text : List Char) :
    prog.find (c :: text) = if first.contains c then some ⟨[], [c]⟩ else none := by
  have hrun : prog.run (some c) text [pc] 1 none = some 1 := by
    cases text <;> simp [run, hpc]
  simp [find_cons h, hrun]

def only (set : CharSet) : Program :=
  ⟨#[.check .textStart 1, .read set 2, .accept], true⟩

def repeated (set : CharSet) : Program :=
  ⟨#[.check .textStart 1, .read set 2, .fork 1 3, .accept], true⟩

def led (first set : CharSet) : Program :=
  ⟨#[.check .textStart 1, .read first 2, .fork 3 5, .read set 4, .jump 2, .accept], true⟩

/-- Exactly one character of the set is read. -/
theorem find_only (set : CharSet) (c : Char) (text : List Char) :
    (only set).find (c :: text) = if set.contains c then some ⟨[], [c]⟩ else none :=
  find_of_ended ⟨rfl, fun _ => rfl⟩ (fun _ _ => rfl) c text

/-- As many characters of the set are read as there are, at least one. -/
theorem find_repeated (set : CharSet) (c : Char) (text : List Char) :
    (repeated set).find (c :: text) =
      if set.contains c then some ⟨[], c :: text.takeWhile set.contains⟩ else none :=
  find_of_repeats ⟨rfl, fun _ => rfl⟩ (fun _ _ => rfl) (fun _ _ => rfl) c text

/-- A character of the first set is read, and then all of the second that there are. -/
theorem find_led (first set : CharSet) (c : Char) (text : List Char) :
    (led first set).find (c :: text) =
      if first.contains c then some ⟨[], c :: text.takeWhile set.contains⟩ else none :=
  find_of_repeats ⟨rfl, fun _ => rfl⟩ (fun _ _ => rfl) (fun _ _ => rfl) c text

end CanonicalLR.Pattern.Program
