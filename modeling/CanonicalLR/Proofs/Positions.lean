import Mathlib.Data.List.Induction
import CanonicalLR.Token

/-! Rows and columns against the bytes of a text: the row of a byte offset counts the line feeds
before it, the column the bytes behind the last of them. Offsets inside a character count like all
others, since no byte of another character is a line feed. -/
namespace CanonicalLR

namespace Text

def bytes (text : String) : List UInt8 :=
  text.toByteArray.data.toList

def lineFeed : UInt8 := 10

/-- The offset behind the last line feed of some bytes, zero if there is none. -/
def behindLast (bytes : List UInt8) : Nat :=
  (bytes.reverse.dropWhile (· ≠ lineFeed)).length

/-- The bytes of a text are those of its characters, one after the other. -/
theorem bytes_eq (text : String) : bytes text = text.toList.flatMap String.utf8EncodeChar := by
  conv_lhs => rw [← String.ofList_toList (s := text)]
  rw [bytes, String.toByteArray_ofList, List.utf8Encode, List.data_toByteArray]

private theorem toNat_of_mem_utf8EncodeChar {c : Char} {b : UInt8}
    (h : b ∈ String.utf8EncodeChar c) : b.toNat = c.toNat ∨ 128 ≤ b.toNat := by
  have hbyte : ∀ n, b = UInt8.ofNat n → b.toNat = n % 256 := by
    rintro n rfl
    exact UInt8.toNat_ofNat'
  unfold String.utf8EncodeChar at h
  simp only at h
  split_ifs at h <;> simp only [List.mem_cons, List.not_mem_nil, or_false] at h
  · left
    rw [hbyte _ h, Char.toNat]
    omega
  all_goals right
  · rcases h with h | h <;> rw [hbyte _ h] <;> omega
  · rcases h with h | h | h <;> rw [hbyte _ h] <;> omega
  · rcases h with h | h | h | h <;> rw [hbyte _ h] <;> omega

private theorem eq_of_lineFeed_mem {c : Char} (h : lineFeed ∈ String.utf8EncodeChar c) :
    c = '\n' := by
  rcases toNat_of_mem_utf8EncodeChar h with hc | hc
  · exact Char.toNat_inj.1 hc.symm
  · exact absurd hc (by decide)

private theorem behindLast_append_lineFeed (bytes : List UInt8) :
    behindLast (bytes ++ [lineFeed]) = bytes.length + 1 := by
  simp [behindLast]

private theorem behindLast_append_of_not_mem {a b : List UInt8} (h : lineFeed ∉ b) :
    behindLast (a ++ b) = behindLast a := by
  rw [behindLast, behindLast, List.reverse_append, List.dropWhile_append_of_pos]
  intro x hx
  have hne : x ≠ lineFeed := fun he => h (he ▸ List.mem_reverse.1 hx)
  exact decide_eq_true hne

private theorem behindLast_le_length (bytes : List UInt8) : behindLast bytes ≤ bytes.length := by
  have hle := (List.dropWhile_sublist (l := bytes.reverse) (· ≠ lineFeed)).length_le
  rwa [List.length_reverse] at hle

end Text

namespace LineStarts

open Text

def behindBytes : Nat → List UInt8 → List Nat
  | _, [] => []
  | offset, b :: bytes =>
    if b = lineFeed then (offset + 1) :: behindBytes (offset + 1) bytes
    else behindBytes (offset + 1) bytes

private theorem behindBytes_append (offset : Nat) (a b : List UInt8) :
    behindBytes offset (a ++ b) = behindBytes offset a ++ behindBytes (offset + a.length) b := by
  induction a generalizing offset with
  | nil => rfl
  | cons x a ih =>
    rw [List.cons_append, behindBytes, behindBytes, ih, List.length_cons, Nat.add_assoc,
      Nat.add_comm 1]
    split <;> rfl

private theorem behindBytes_of_not_mem {offset : Nat} {bytes : List UInt8}
    (h : lineFeed ∉ bytes) : behindBytes offset bytes = [] := by
  induction bytes generalizing offset with
  | nil => rfl
  | cons b bytes ih =>
    rw [List.mem_cons, not_or] at h
    rw [behindBytes, if_neg fun hb => h.1 hb.symm, ih h.2]

private theorem mem_behindBytes {offset n : Nat} {bytes : List UInt8}
    (h : n ∈ behindBytes offset bytes) : offset < n ∧ n ≤ offset + bytes.length := by
  induction bytes generalizing offset with
  | nil => cases h
  | cons b bytes ih =>
    rw [behindBytes] at h
    rw [List.length_cons]
    split at h
    · rcases List.mem_cons.1 h with rfl | h
      · omega
      · have := ih h
        omega
    · have := ih h
      omega

private theorem length_behindBytes (offset : Nat) (bytes : List UInt8) :
    (behindBytes offset bytes).length = bytes.count lineFeed := by
  induction bytes generalizing offset with
  | nil => rfl
  | cons b bytes ih =>
    rw [behindBytes, List.count_cons]
    split
    · rename_i hb
      rw [List.length_cons, ih, if_pos (beq_iff_eq.2 hb)]
    · rename_i hb
      rw [ih, if_neg fun h => hb (beq_iff_eq.1 h), Nat.add_zero]

private theorem getLastD_behindBytes (bytes : List UInt8) :
    (behindBytes 0 bytes).getLastD 0 = behindLast bytes := by
  induction bytes using List.reverseRecOn with
  | nil => rfl
  | append_singleton bytes b ih =>
    rw [behindBytes_append]
    by_cases hb : b = lineFeed
    · subst hb
      simp [behindBytes, behindLast_append_lineFeed]
    · have hnot : lineFeed ∉ [b] := fun h => hb (List.mem_singleton.1 h).symm
      rw [behindBytes_of_not_mem hnot, List.append_nil, ih, behindLast_append_of_not_mem hnot]

private theorem behindLineFeeds_eq (offset : Nat) (text : List Char) :
    behindLineFeeds offset text =
      behindBytes offset (text.flatMap String.utf8EncodeChar) := by
  induction text generalizing offset with
  | nil => rfl
  | cons c text ih =>
    rw [behindLineFeeds, List.flatMap_cons, behindBytes_append, String.length_utf8EncodeChar, ← ih]
    by_cases hc : c = '\n'
    · subst hc
      rfl
    · rw [behindBytes_of_not_mem fun h => hc (eq_of_lineFeed_mem h)]
      simp [hc]

/-- The starts of the lines, cut at an offset: what stands before the cut comes from the bytes before
the offset. -/
private theorem exists_offsets_eq (text : String) (i : Nat) :
    ∃ later, (ofText text.toList).offsets =
        (0 :: behindBytes 0 ((bytes text).take i)) ++ later ∧
      (∀ n ∈ 0 :: behindBytes 0 ((bytes text).take i), n ≤ i) ∧ ∀ n ∈ later, i < n := by
  refine ⟨behindBytes (0 + ((bytes text).take i).length) ((bytes text).drop i), ?_, ?_, ?_⟩
  · rw [ofText, behindLineFeeds_eq, ← bytes_eq, List.cons_append, ← behindBytes_append,
      List.take_append_drop]
  · intro n hn
    rcases List.mem_cons.1 hn with rfl | hn
    · exact Nat.zero_le i
    · have hle := (mem_behindBytes hn).2
      rw [List.length_take] at hle
      omega
  · intro n hn
    obtain ⟨hlt, hle⟩ := mem_behindBytes hn
    rw [List.length_drop, List.length_take] at hle
    rw [List.length_take] at hlt
    omega

private theorem takeWhile_offsets (text : String) (i : Nat) :
    (ofText text.toList).offsets.takeWhile (· ≤ i) = 0 :: behindBytes 0 ((bytes text).take i) := by
  obtain ⟨later, hoffsets, hbefore, hlater⟩ := exists_offsets_eq text i
  rw [hoffsets, List.takeWhile_append_of_pos fun n hn => decide_eq_true (hbefore n hn)]
  cases later with
  | nil => rw [List.takeWhile_nil, List.append_nil]
  | cons n later =>
    have hn : ¬ n ≤ i := Nat.not_le.2 (hlater n List.mem_cons_self)
    rw [List.takeWhile_cons_of_neg (by simpa using hn), List.append_nil]

/-- The row is where the starts of the lines that come too late begin, whichever way it is searched. -/
theorem lt_row_iff {text : String} {i k start : Nat} (n : Nat)
    (h : (ofText text.toList).offsets[k]? = some start) :
    k < ((ofText text.toList).position i n).row ↔ start ≤ i := by
  obtain ⟨later, hoffsets, hbefore, hlater⟩ := exists_offsets_eq text i
  rw [position, takeWhile_offsets]
  rw [hoffsets] at h
  constructor
  · intro hk
    rw [List.getElem?_append_left hk] at h
    exact hbefore start (List.mem_of_getElem? h)
  · intro hstart
    by_contra hk
    rw [List.getElem?_append_right (Nat.le_of_not_lt hk)] at h
    exact absurd (hlater start (List.mem_of_getElem? h)) (Nat.not_lt.2 hstart)

private theorem row_position (text : String) (i n : Nat) :
    ((ofText text.toList).position i n).row = 1 + ((bytes text).take i).count lineFeed := by
  rw [position, takeWhile_offsets, List.length_cons, length_behindBytes, Nat.add_comm]

private theorem column_position (text : String) (i n : Nat) :
    ((ofText text.toList).position i n).column = i - behindLast ((bytes text).take i) + 1 := by
  rw [position, takeWhile_offsets, List.getLastD_cons, getLastD_behindBytes]

/-- The start of the line of an offset is in the list, and not behind the offset. -/
theorem offsets_row (text : String) (i n : Nat) :
    (ofText text.toList).offsets[((ofText text.toList).position i n).row - 1]? =
      some (behindLast ((bytes text).take i)) := by
  obtain ⟨later, hoffsets, -, -⟩ := exists_offsets_eq text i
  have hlast : (0 :: behindBytes 0 ((bytes text).take i)).getLast? =
      some (behindLast ((bytes text).take i)) := by
    rw [← getLastD_behindBytes, List.getLast?_cons, List.getLastD_eq_getLast?]
  rw [position, takeWhile_offsets, hoffsets, List.getElem?_append_left (by simp),
    ← List.getLast?_eq_getElem?, hlast]

private theorem behindLast_take_le (bytes : List UInt8) (i : Nat) : behindLast (bytes.take i) ≤ i :=
  Nat.le_trans (behindLast_le_length _) (List.length_take_le i bytes)

/-- Later offsets stand in later rows, or in the same row and a later column. -/
theorem position_lt {text : String} {i j : Nat} (hij : i < j) (m n : Nat) :
    ((ofText text.toList).position i m).row < ((ofText text.toList).position j n).row ∨
      ((ofText text.toList).position i m).row = ((ofText text.toList).position j n).row ∧
        ((ofText text.toList).position i m).column <
          ((ofText text.toList).position j n).column := by
  obtain ⟨k, rfl⟩ := Nat.exists_eq_add_of_lt hij
  have hle := behindLast_take_le (bytes text) i
  rw [row_position, row_position, column_position, column_position, Nat.add_assoc, List.take_add,
    List.count_append]
  by_cases hfeed : lineFeed ∈ ((bytes text).drop i).take (k + 1)
  · left
    have := List.count_pos_iff.2 hfeed
    omega
  · right
    rw [behindLast_append_of_not_mem hfeed, List.count_eq_zero.2 hfeed]
    omega

/-- The place of a byte offset. The search for the row parts the starts of the lines into those up to
the offset and those behind it, and the one that it ends at is there. The row counts the line feeds
before the offset, the column is the distance from behind the last of them, both from one on. Of two
offsets the later one has the greater place, so a place belongs to one offset only. -/
theorem position_exact (text : String) (i n : Nat) :
    let lines := ofText text.toList
    let before := (bytes text).take i
    let place := lines.position i n
    place.index = i ∧ place.length = n ∧
    (∀ k start, lines.offsets[k]? = some start → (k < place.row ↔ start ≤ i)) ∧
    (∃ start, 0 < place.row ∧ lines.offsets[place.row - 1]? = some start ∧ start ≤ i ∧
      place.column = i - start + 1) ∧
    place.row = 1 + before.count lineFeed ∧
    place.column = i - behindLast before + 1 ∧
    (∀ j m, i < j → place.row < (lines.position j m).row ∨
      place.row = (lines.position j m).row ∧ place.column < (lines.position j m).column) ∧
    ∀ j m, place.row = (lines.position j m).row → place.column = (lines.position j m).column →
      i = j := by
  intro lines before place
  refine ⟨rfl, rfl, fun k start hk => lt_row_iff n hk, ?_, row_position text i n,
    column_position text i n, fun j m hij => position_lt hij n m, fun j m hrow hcolumn => ?_⟩
  · have hrow : 0 < place.row := by
      rw [row_position]
      omega
    exact ⟨_, hrow, offsets_row text i n, behindLast_take_le _ i, column_position text i n⟩
  · rcases Nat.lt_trichotomy i j with hij | hij | hij
    · have hlt : place.row < (lines.position j m).row ∨ place.row = (lines.position j m).row ∧
          place.column < (lines.position j m).column := position_lt hij n m
      omega
    · exact hij
    · have hlt : (lines.position j m).row < place.row ∨ (lines.position j m).row = place.row ∧
          (lines.position j m).column < place.column := position_lt hij m n
      omega

/-- An offset inside a character of the second line, and the line feed before that line. -/
theorem position_exact_inside :
    (ofText "é\n😀".toList).offsets = [0, 3] ∧
    (ofText "é\n😀".toList).position 5 1 = ⟨5, 2, 3, 1⟩ ∧
    ((ofText "é\n😀".toList).position 2 1).row < ((ofText "é\n😀".toList).position 5 1).row := by
  have hoffsets : (ofText "é\n😀".toList).offsets = [0, 3] := by decide
  obtain ⟨-, -, hpart, -, -, -, -, -⟩ := position_exact "é\n😀" 5 1
  obtain ⟨-, -, hbefore, -, -, -, hlt, -⟩ := position_exact "é\n😀" 2 1
  have hsecond : (ofText "é\n😀".toList).offsets[1]? = some 3 := by rw [hoffsets]; rfl
  have hlate := (hpart 1 3 hsecond).2 (by decide)
  have hearly : ¬ 1 < ((ofText "é\n😀".toList).position 2 1).row := fun h =>
    absurd ((hbefore 1 3 hsecond).1 h) (by decide)
  refine ⟨hoffsets, by decide, ?_⟩
  rcases hlt 5 1 (by decide) with hrow | ⟨hrow, -⟩ <;> omega

end LineStarts

end CanonicalLR
