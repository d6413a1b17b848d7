import Mathlib.Data.List.Basic
import Mathlib.Tactic.IntervalCases
import CanonicalLR.Json.Reader
import CanonicalLR.Json.Writer

/-! JSON texts: what is written is read back. Strings and numbers are read up to what follows them, and
a value is read back in front of anything that can follow a value. -/
namespace CanonicalLR.Json

private theorem hex4?_control :
    ∀ n < 0x20, hex4? '0' '0' (Nat.digitChar (n / 16)) (Nat.digitChar (n % 16)) = some n := by
  decide

private theorem escapeChar_cases (c : Char) :
    (∃ letter, shortEscape? letter = some c ∧ escapeChar c = ['\\', letter]) ∨
    (c.toNat < 0x20 ∧ escapeChar c = '\\' :: 'u' :: '0' :: '0' :: hex2 c.toNat) ∨
    c ≠ '"' ∧ c ≠ '\\' ∧ 0x20 ≤ c.toNat ∧ escapeChar c = [c] := by
  unfold escapeChar
  split
  · exact .inl ⟨'"', rfl, rfl⟩
  · exact .inl ⟨'\\', rfl, rfl⟩
  · exact .inl ⟨'b', rfl, rfl⟩
  · exact .inl ⟨'f', rfl, rfl⟩
  · exact .inl ⟨'n', rfl, rfl⟩
  · exact .inl ⟨'r', rfl, rfl⟩
  · exact .inl ⟨'t', rfl, rfl⟩
  · rename_i hquote hback _ _ _ _ _
    split
    · rename_i hlt
      exact .inr (.inl ⟨hlt, rfl⟩)
    · rename_i hle
      exact .inr (.inr ⟨hquote, hback, Nat.le_of_not_lt hle, rfl⟩)

private theorem letter_ne_u {c letter : Char} (h : shortEscape? letter = some c) :
    letter ≠ 'u' := by
  rintro rfl
  cases h

private theorem readString_escapeChar (c : Char) (text : List Char) :
    readString (escapeChar c ++ text) =
      (readString text).map fun (raw, rest) => (escapeChar c ++ raw, rest) := by
  rcases escapeChar_cases c with ⟨letter, hl, he⟩ | ⟨hlt, he⟩ | ⟨hquote, hback, hle, he⟩
  · have hu := letter_ne_u hl
    rw [he, List.cons_append, List.cons_append, List.nil_append, readString]
    · simp [hl]
      cases readString text <;> rfl
    · intro _ _ _ _ _ h
      exact absurd h hu
  · rw [he]
    simp only [hex2, List.cons_append, List.nil_append]
    rw [readString, hex4?_control _ hlt]
    cases readString text <;> rfl
  · rw [he, List.singleton_append, readString]
    · simp [hback, Nat.not_lt_of_le hle]
      cases readString text <;> rfl
    all_goals grind

private theorem unescape_escapeChar (c : Char) (text : List Char) :
    unescape (escapeChar c ++ text) = (unescape text).map (c :: ·) := by
  rcases escapeChar_cases c with ⟨letter, hl, he⟩ | ⟨hlt, he⟩ | ⟨hquote, hback, hle, he⟩
  · have hu := letter_ne_u hl
    rw [he, List.cons_append, List.cons_append, List.nil_append, unescape]
    · simp [hl]
      cases unescape text <;> rfl
    · intro _ _ _ _ _ h
      exact absurd h hu
  · rw [he]
    simp only [hex2, List.cons_append, List.nil_append]
    have hvalid : c.toNat.isValidChar := Or.inl (by omega)
    rw [unescape, hex4?_control _ hlt]
    simp [hvalid]
    cases unescape text <;> rfl
  · rw [he, List.singleton_append, unescape]
    all_goals grind

private theorem readString_escape (s : String) (rest : List Char) :
    readString (escape s ++ '"' :: rest) = some (escape s, rest) := by
  unfold escape
  induction s.toList with
  | nil => rw [List.flatMap_nil, List.nil_append, readString]
  | cons c cs ih => rw [List.flatMap_cons, List.append_assoc, readString_escapeChar, ih]; rfl

/-- Escaped texts stand for themselves. -/
@[simp] theorem unescape_escape (s : String) : unescape (escape s) = some s.toList := by
  unfold escape
  induction s.toList with
  | nil => rfl
  | cons c cs ih => rw [List.flatMap_cons, unescape_escapeChar, ih]; rfl

theorem isDigit_of_mem_toDigits {n : Nat} {c : Char} (h : c ∈ Nat.toDigits 10 n) :
    isDigit c = true := by
  have hd := Nat.isDigit_of_mem_toDigits (by omega) (by omega) h
  simpa [isDigit, Char.isDigit, Char.le_def] using hd

private theorem escapeChar_of_isDigit {c : Char} (h : isDigit c = true) : escapeChar c = [c] := by
  have hle : '0' ≤ c := of_decide_eq_true (Bool.and_eq_true_iff.1 h).1
  have hnum : 0x30 ≤ c.toNat := UInt32.le_iff_toNat_le.1 hle
  unfold escapeChar
  split
  all_goals try cases h
  rw [if_neg (by omega)]

/-- Digits stand for themselves between quotes. -/
theorem escape_toDigits (n : Nat) :
    escape (String.ofList (Nat.toDigits 10 n)) = Nat.toDigits 10 n := by
  have hall : ∀ c ∈ Nat.toDigits 10 n, escapeChar c = [c] := fun c hc =>
    escapeChar_of_isDigit (isDigit_of_mem_toDigits hc)
  rw [escape, String.toList_ofList, List.flatMap_congr hall]
  simp

/-- Decimal digits have the value that they were written for. -/
@[simp] theorem digitsValue_toDigits (n : Nat) : Number.digitsValue (Nat.toDigits 10 n) = n :=
  Nat.ofDigitChars_ten_toDigits

private theorem head?_toDigits_ne {n : Nat} (h : 0 < n) :
    (Nat.toDigits 10 n).head? ≠ some '0' := by
  induction n using Nat.strong_induction_on with
  | h n ih =>
    by_cases hn : n < 10
    · rw [Nat.toDigits_of_lt_base hn]
      interval_cases n <;> decide
    · rw [Nat.toDigits_of_base_le (by omega) (by omega), List.head?_append_of_ne_nil]
      · exact ih (n / 10) (by omega) (by omega)
      · exact Nat.toDigits_ne_nil

/-- Only the number zero begins with a zero. -/
theorem toDigits_no_leading_zero (n : Nat) :
    ((Nat.toDigits 10 n).head? == some '0' && (Nat.toDigits 10 n).length > 1) = false := by
  rcases Nat.eq_zero_or_pos n with rfl | hn
  · rfl
  · simp [head?_toDigits_ne hn]

/-- What stands behind a value: nothing, or a character that ends one. -/
def Ends (rest : List Char) : Prop :=
  ∀ c ∈ rest.head?, c = ',' ∨ c = ']' ∨ c = '\x7d'

private theorem readDigits_toDigits (n : Nat) {rest : List Char} (hr : Ends rest) :
    readDigits (Nat.toDigits 10 n ++ rest) = some (Nat.toDigits 10 n, rest) := by
  have hall : ∀ c ∈ Nat.toDigits 10 n, isDigit c = true := fun c hc => isDigit_of_mem_toDigits hc
  have hstop : rest.takeWhile isDigit = [] ∧ rest.dropWhile isDigit = rest := by
    cases rest with
    | nil => exact ⟨rfl, rfl⟩
    | cons c rest =>
      have hc : isDigit c = false := by
        rcases hr c rfl with rfl | rfl | rfl <;> decide
      simp [hc]
  simp [readDigits, List.takeWhile_append_of_pos hall, List.dropWhile_append_of_pos hall, hstop,
    Nat.toDigits_ne_nil]

private theorem readUnsigned_toDigits (n : Nat) {rest : List Char} (hr : Ends rest) :
    readUnsigned false (Nat.toDigits 10 n ++ rest) = some (.ofNat n, rest) := by
  have hfraction : readFraction rest = some (none, rest) := by
    unfold readFraction
    split
    · rcases hr '.' rfl with h | h | h <;> cases h
    · rfl
  have hexponent : readExponent rest = some (none, rest) := by
    cases rest with
    | nil => rfl
    | cons c rest =>
      have hc : (c == 'e' || c == 'E') = false := by
        rcases hr c rfl with rfl | rfl | rfl <;> decide
      simp only [readExponent.eq_def, hc]
      rfl
  rw [readUnsigned, readDigits_toDigits n hr]
  simp only [Option.bind_eq_bind, Option.bind_some, toDigits_no_leading_zero, hfraction, hexponent,
    digitsValue_toDigits]
  rfl

/-- Values of texts and of natural numbers below 2^64, put together in arrays and objects. -/
inductive Value.Plain : Value → Prop
  | number {n : Nat} : n < Nat.pow 2 64 → Plain (.ofNat n)
  | string (s : String) : Plain (.ofString s)
  | array {elements : List Value} : (∀ v ∈ elements, Plain v) → Plain (.array elements)
  | object {members : List (List Char × Value)} : (∀ m ∈ members, ∃ s, m.1 = escape s) →
      (∀ m ∈ members, Plain m.2) → Plain (.object members)

/-- An object of plain values is plain. -/
theorem Value.plain_ofMembers {members : List (String × Value)}
    (h : ∀ m ∈ members, m.2.Plain) : (Value.ofMembers members).Plain := by
  refine .object (fun m hm => ?_) fun m hm => ?_
  all_goals obtain ⟨⟨key, v⟩, hkv, rfl⟩ := List.mem_map.1 hm
  · exact ⟨key, rfl⟩
  · exact h _ hkv

namespace Value

mutual

/-- The text of a value does not depend on what it stands in front of. -/
theorem write_eq_append : (v : Value) → (rest : List Char) → v.write rest = v.write [] ++ rest
  | null, _ => rfl
  | bool true, _ => rfl
  | bool false, _ => rfl
  | number n, rest => by
    simp only [write, Number.write]
    cases n.exponent <;> cases n.fraction <;> simp
  | string raw, rest => by simp [write, writeString]
  | array elements, rest => by
    rw [write, write, writeElements_eq_append elements (']' :: rest),
      writeElements_eq_append elements [']']]
    simp
  | object members, rest => by
    rw [write, write, writeMembers_eq_append members ('\x7d' :: rest),
      writeMembers_eq_append members ['\x7d']]
    simp

private theorem writeElements_eq_append : (vs : List Value) → (rest : List Char) →
    writeElements vs rest = writeElements vs [] ++ rest
  | [], _ => rfl
  | [v], rest => by simp only [writeElements]; exact write_eq_append v rest
  | v :: w :: vs, rest => by
    simp only [writeElements]
    rw [write_eq_append v, writeElements_eq_append (w :: vs) rest,
      write_eq_append v (',' :: writeElements (w :: vs) [])]
    simp

private theorem writeMembers_eq_append : (ms : List (List Char × Value)) → (rest : List Char) →
    writeMembers ms rest = writeMembers ms [] ++ rest
  | [], _ => rfl
  | [(key, v)], rest => by
    simp only [writeMembers, writeString]
    rw [write_eq_append v]
    simp
  | (key, v) :: m :: ms, rest => by
    simp only [writeMembers, writeString]
    rw [write_eq_append v, writeMembers_eq_append (m :: ms) rest,
      write_eq_append v (',' :: writeMembers (m :: ms) [])]
    simp

end

end Value

private theorem skipSpace_cons {c : Char} (h : isSpace c = false) (text : List Char) :
    skipSpace (c :: text) = c :: text := by
  simp [skipSpace, h]

private theorem isSpace_of_isDigit {c : Char} (h : isDigit c = true) : isSpace c = false := by
  simp only [isSpace, Bool.or_eq_false_iff, beq_eq_false_iff_ne]
  refine ⟨⟨⟨?_, ?_⟩, ?_⟩, ?_⟩
  all_goals rintro rfl; cases h

private theorem exists_toDigits_eq_cons (n : Nat) :
    ∃ c cs, Nat.toDigits 10 n = c :: cs ∧ isDigit c = true := by
  obtain ⟨c, cs, hc⟩ := List.exists_cons_of_ne_nil (Nat.toDigits_ne_nil (b := 10) (n := n))
  exact ⟨c, cs, hc, isDigit_of_mem_toDigits (by rw [hc]; exact List.mem_cons_self)⟩

private theorem exists_write_eq_cons {v : Value} (h : v.Plain) (rest : List Char) :
    ∃ c text, v.write rest = c :: text ∧ isSpace c = false ∧ c ≠ ']' := by
  cases h with
  | @number n =>
    obtain ⟨c, cs, hc, hd⟩ := exists_toDigits_eq_cons n
    refine ⟨c, cs ++ rest, ?_, isSpace_of_isDigit hd, ?_⟩
    · simp [Value.ofNat, Value.write, Number.write, Number.ofNat, hc]
    · rintro rfl
      cases hd
  | string s => exact ⟨_, _, rfl, rfl, by decide⟩
  | array => exact ⟨_, _, rfl, rfl, by decide⟩
  | object => exact ⟨_, _, rfl, rfl, by decide⟩

private theorem exists_writeElements_eq (v : Value) (vs : List Value) (rest : List Char) :
    ∃ more, Value.writeElements (v :: vs) rest = v.write more := by
  cases vs with
  | nil => exact ⟨rest, by rw [Value.writeElements]⟩
  | cons w vs => exact ⟨',' :: Value.writeElements (w :: vs) rest, by simp only [Value.writeElements]⟩

private theorem exists_writeMembers_eq_cons (m : List Char × Value) (ms : List (List Char × Value))
    (rest : List Char) : ∃ text, Value.writeMembers (m :: ms) rest = '"' :: text := by
  cases ms with
  | nil => exact ⟨_, by rw [Value.writeMembers, writeString]; rfl⟩
  | cons n ms => exact ⟨_, by simp only [Value.writeMembers, writeString]; rfl⟩

/-- The value is read back in front of all that can follow it. Its length is fuel enough. -/
private def Reads (v : Value) : Prop :=
  ∀ fuel rest, (v.write []).length ≤ fuel → Ends rest →
    readValue fuel (v.write rest) = some (v, rest)

private theorem readElements_write {vs : List Value} (hv : ∀ v ∈ vs, Reads v) (hne : vs ≠ [])
    {fuel : Nat} (hf : (Value.writeElements vs []).length < fuel) (rest : List Char) :
    readElements fuel (Value.writeElements vs (']' :: rest)) = some (vs, rest) := by
  induction vs generalizing fuel with
  | nil => exact absurd rfl hne
  | cons v vs ih =>
    obtain ⟨fuel, rfl⟩ : ∃ n, fuel = n + 1 := ⟨fuel - 1, by omega⟩
    have hread := hv v List.mem_cons_self
    cases vs with
    | nil =>
      simp only [Value.writeElements] at hf ⊢
      rw [readElements, hread fuel (']' :: rest) (by omega) (by simp [Ends])]
      rfl
    | cons w vs =>
      simp only [Value.writeElements] at hf ⊢
      rw [Value.write_eq_append] at hf
      simp only [List.length_append, List.length_cons] at hf
      rw [readElements, hread fuel _ (by omega) (by simp [Ends])]
      simp only [Option.bind_eq_bind, Option.bind_some, skipSpace_cons (c := ',') rfl]
      rw [ih (fun u hu => hv u (List.mem_cons_of_mem _ hu)) (by simp) (by omega)]
      rfl

private theorem readMembers_write {ms : List (List Char × Value)}
    (hk : ∀ m ∈ ms, ∃ s, m.1 = escape s) (hv : ∀ m ∈ ms, Reads m.2) (hne : ms ≠ []) {fuel : Nat}
    (hf : (Value.writeMembers ms []).length < fuel) (rest : List Char) :
    readMembers fuel (Value.writeMembers ms ('\x7d' :: rest)) = some (ms, rest) := by
  induction ms generalizing fuel with
  | nil => exact absurd rfl hne
  | cons m ms ih =>
    obtain ⟨fuel, rfl⟩ : ∃ n, fuel = n + 1 := ⟨fuel - 1, by omega⟩
    obtain ⟨key, v⟩ := m
    obtain ⟨s, rfl⟩ : ∃ s, key = escape s := hk _ List.mem_cons_self
    have hread : Reads v := hv _ List.mem_cons_self
    cases ms with
    | nil =>
      simp only [Value.writeMembers, writeString, List.length_cons, List.length_append,
        List.cons_append] at hf ⊢
      rw [readMembers, skipSpace_cons rfl]
      simp only [readString_escape, Option.bind_eq_bind, Option.bind_some,
        skipSpace_cons (c := ':') rfl]
      rw [hread fuel _ (by omega) (by simp [Ends])]
      rfl
    | cons m ms =>
      simp only [Value.writeMembers, writeString, List.length_cons, List.length_append,
        List.cons_append] at hf ⊢
      rw [Value.write_eq_append] at hf
      simp only [List.length_append, List.length_cons] at hf
      rw [readMembers, skipSpace_cons rfl]
      simp only [readString_escape, Option.bind_eq_bind, Option.bind_some,
        skipSpace_cons (c := ':') rfl]
      rw [hread fuel _ (by omega) (by simp [Ends])]
      simp only [Option.bind_some, skipSpace_cons (c := ',') rfl]
      rw [ih (fun u hu => hk u (List.mem_cons_of_mem _ hu))
        (fun u hu => hv u (List.mem_cons_of_mem _ hu)) (by simp) (by omega)]
      rfl

private theorem reads_number (n : Nat) : Reads (.ofNat n) := by
  intro fuel rest hf hr
  obtain ⟨c, cs, hc, hd⟩ := exists_toDigits_eq_cons n
  have hwrite : ∀ rest, (Value.ofNat n).write rest = Nat.toDigits 10 n ++ rest := fun rest => rfl
  obtain ⟨fuel, rfl⟩ : ∃ m, fuel = m + 1 := ⟨fuel - 1, by simp [hwrite, hc] at hf; omega⟩
  have hnumber := readUnsigned_toDigits n hr
  rw [hwrite]
  rw [hc, List.cons_append] at hnumber ⊢
  rw [readValue, skipSpace_cons (isSpace_of_isDigit hd)]
  split
  all_goals try (rename_i h; cases h; cases hd)
  rw [hnumber]
  rfl

private theorem reads_of_plain {v : Value} (h : v.Plain) : Reads v := by
  induction h with
  | number => exact reads_number _
  | string s =>
    intro fuel rest hf hr
    obtain ⟨fuel, rfl⟩ : ∃ m, fuel = m + 1 :=
      ⟨fuel - 1, by simp [Value.ofString, Value.write, writeString] at hf; omega⟩
    rw [Value.ofString, Value.write, writeString, List.cons_append, readValue, skipSpace_cons rfl]
    simp only [readString_escape]
    rfl
  | @array elements hp ih =>
    intro fuel rest hf hr
    rw [Value.write, Value.writeElements_eq_append] at hf
    simp only [List.length_cons, List.length_append] at hf
    obtain ⟨fuel, rfl⟩ : ∃ m, fuel = m + 1 := ⟨fuel - 1, by omega⟩
    rw [Value.write, readValue, skipSpace_cons rfl]
    cases elements with
    | nil => rfl
    | cons v vs =>
      have hread : readElements fuel (Value.writeElements (v :: vs) (']' :: rest)) =
          some (v :: vs, rest) := readElements_write ih (by simp) (by omega) rest
      obtain ⟨more, hmore⟩ := exists_writeElements_eq v vs (']' :: rest)
      obtain ⟨c, text, hc, hspace, hne⟩ := exists_write_eq_cons (hp v List.mem_cons_self) more
      rw [hmore, hc] at hread ⊢
      simp only [skipSpace_cons hspace]
      split
      · rename_i h
        exact absurd (List.cons.inj h).1 hne
      · rw [hread]
        rfl
  | @object members hk hp ih =>
    intro fuel rest hf hr
    rw [Value.write, Value.writeMembers_eq_append] at hf
    simp only [List.length_cons, List.length_append] at hf
    obtain ⟨fuel, rfl⟩ : ∃ m, fuel = m + 1 := ⟨fuel - 1, by omega⟩
    rw [Value.write, readValue, skipSpace_cons rfl]
    cases members with
    | nil => rfl
    | cons m ms =>
      have hread : readMembers fuel (Value.writeMembers (m :: ms) ('\x7d' :: rest)) =
          some (m :: ms, rest) := readMembers_write hk ih (by simp) (by omega) rest
      obtain ⟨text, htext⟩ := exists_writeMembers_eq_cons m ms ('\x7d' :: rest)
      rw [htext] at hread ⊢
      simp only [skipSpace_cons (c := '"') rfl]
      split
      · rename_i h
        cases h
      · rw [hread]
        rfl

/-- The text of a plain value is read as this value. -/
theorem parse_render {v : Value} (h : v.Plain) : parse v.render = some v := by
  have hread := reads_of_plain h (2 * (v.write []).length + 2) [] (by omega) (by simp [Ends])
  rw [parse, Value.render, String.toList_ofList, hread]
  rfl

end CanonicalLR.Json
