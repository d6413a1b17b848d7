import Mathlib.Tactic.MkIffOfInductiveProp
import CanonicalLR.Proofs.Json.Text
import CanonicalLR.Tree.Json

/-! Tables and trees that are written as JSON are read back unchanged. -/
namespace CanonicalLR

namespace Json

namespace Number

private theorem le_ofDigitChars (digits : List Char) (s : Nat) :
    s ≤ Nat.ofDigitChars 10 digits s := by
  induction digits generalizing s with
  | nil => exact Nat.le_refl s
  | cons c digits ih =>
    have h := ih (10 * s + (c.toNat - '0'.toNat))
    rw [Nat.ofDigitChars_cons]
    omega

private theorem appendDigits_eq {digits : List Char} {s : Nat}
    (h : Nat.ofDigitChars 10 digits s < Nat.pow 2 64) :
    appendDigits s digits = (Nat.ofDigitChars 10 digits s, 0) := by
  induction digits generalizing s with
  | nil => rfl
  | cons c digits ih =>
    rw [Nat.ofDigitChars_cons] at h ⊢
    have hle := le_ofDigitChars digits (10 * s + (c.toNat - '0'.toNat))
    rw [appendDigits, if_pos (Nat.lt_of_le_of_lt hle h)]
    exact ih h

private theorem round53_le {n : Nat} (h : n ≠ 0) : round53 n ≤ 2 * n := by
  have hunit : Nat.pow 2 (n.log2 - 52) ≤ n :=
    calc Nat.pow 2 (n.log2 - 52) ≤ 2 ^ n.log2 := Nat.pow_le_pow_right (by omega) (by omega)
      _ ≤ n := Nat.log2_self_le h
  have hdiv := Nat.div_mul_le_self n (Nat.pow 2 (n.log2 - 52))
  unfold round53
  dsimp only
  split
  · rw [Nat.add_mul]
    omega
  · omega

private theorem isFinite_ofNat {n : Nat} (h : n < Nat.pow 2 64) : (ofNat n).isFinite = true := by
  have hdigits : appendDigits 0 (Nat.toDigits 10 n) = (n, 0) := by
    rw [appendDigits_eq (by rwa [Nat.ofDigitChars_ten_toDigits]), Nat.ofDigitChars_ten_toDigits]
  simp only [isFinite, ofNat, hdigits, Option.getD_none, appendDigits]
  by_cases h0 : n = 0
  · simp [h0]
  · have hle := round53_le h0
    have hbound : 2 * Nat.pow 2 64 < overflow := by decide +kernel
    have hlt : round53 n * round53 1 < overflow := by
      rw [show round53 1 = 1 from rfl]
      omega
    simp [hlt]

end Number

namespace Value

private theorem depth_le_depthOfElements {elements : List Value} {v : Value} (h : v ∈ elements) :
    v.depth ≤ depthOfElements elements := by
  induction elements with
  | nil => cases h
  | cons w vs ih =>
    rw [depthOfElements]
    rcases List.mem_cons.1 h with rfl | h
    · exact Nat.le_max_left _ _
    · exact (ih h).trans (Nat.le_max_right _ _)

private theorem elementsMeaningful_eq (vs : List Value) :
    elementsMeaningful vs = vs.all isMeaningful := by
  induction vs with
  | nil => rfl
  | cons v vs ih => rw [elementsMeaningful, ih, List.all_cons]

private theorem membersMeaningful_eq (ms : List (List Char × Value)) :
    membersMeaningful ms = ms.all fun m => (unescape m.1).isSome && m.2.isMeaningful := by
  induction ms with
  | nil => rfl
  | cons m ms ih => rw [membersMeaningful, ih, List.all_cons]

private theorem Plain.isMeaningful {v : Value} (h : v.Plain) : v.isMeaningful = true := by
  induction h with
  | number h => exact Number.isFinite_ofNat h
  | string s => simp [ofString, Value.isMeaningful]
  | array _ ih =>
    rw [Value.isMeaningful, elementsMeaningful_eq, List.all_eq_true]
    exact ih
  | object hk _ ih =>
    rw [Value.isMeaningful, membersMeaningful_eq, List.all_eq_true]
    intro m hm
    obtain ⟨s, hs⟩ := hk m hm
    simp [hs, ih m hm]

private theorem ofMembers_eq (members : List (String × Value)) :
    ofMembers members = .object (members.map fun m => (escape m.1, m.2)) := rfl

@[simp] theorem toString?_ofString (s : String) : (ofString s).toString? = some s := by
  simp [ofString, toString?]

private theorem toNatBelow?_ofNat {n bound : Nat} (h : n < bound) :
    (ofNat n).toNatBelow? bound = some n := by
  simp [ofNat, toNatBelow?, Number.toNat?, Number.ofNat, h]

end Value

private theorem mapM_map_eq_some {α β : Type} {read : β → Option α} {write : α → β} {as : List α}
    (h : ∀ a ∈ as, read (write a) = some a) : (as.map write).mapM read = some as := by
  induction as with
  | nil => rfl
  | cons a as ih =>
    rw [List.map_cons, List.mapM_cons, h a List.mem_cons_self,
      ih fun b hb => h b (List.mem_cons_of_mem _ hb)]
    rfl

private theorem filter_key_eq {members : List (String × Value)} {m : String × Value}
    (hn : (members.map (·.1)).Nodup) (hm : m ∈ members) :
    members.filter (fun e => e.1.toList = m.1.toList) = [m] := by
  induction members with
  | nil => cases hm
  | cons e members ih =>
    obtain ⟨he, hn⟩ := List.nodup_cons.1 hn
    rcases List.mem_cons.1 hm with rfl | hm
    · have hrest : members.filter (fun e => e.1.toList = m.1.toList) = [] := by
        rw [List.filter_eq_nil_iff]
        intro e hmem heq
        have hkey : e.1 = m.1 := String.toList_inj.1 (of_decide_eq_true heq)
        exact he (List.mem_map.2 ⟨e, hmem, hkey⟩)
      simp [hrest]
    · have hne : e.1.toList ≠ m.1.toList := fun h =>
        he (List.mem_map.2 ⟨m, hm, (String.toList_inj.1 h).symm⟩)
      simp [hne, ih hn hm]

private theorem fields?_ofMembers (members : List (String × Value))
    (h : (members.map (·.1)).Nodup) :
    fields? (members.map (·.1)) (.ofMembers members) = some (members.map (·.2)) := by
  have hmember : ∀ m ∈ members,
      member? (members.map fun m => (escape m.1, m.2)) m.1 = some m.2 := by
    intro m hm
    simp [member?, List.filter_map, Function.comp_def, filter_key_eq h hm]
  have hread : ∀ part : List (String × Value), part ⊆ members →
      (part.map (·.1)).mapM (member? (members.map fun m => (escape m.1, m.2))) =
        some (part.map (·.2)) := by
    intro part hpart
    induction part with
    | nil => rfl
    | cons m part ih =>
      rw [List.map_cons, List.mapM_cons, hmember m (hpart List.mem_cons_self),
        ih (List.Subset.trans (List.subset_cons_self ..) hpart)]
      rfl
  simpa [fields?, Value.ofMembers_eq] using hread members (List.Subset.refl _)

private theorem tagged?_ofMembers (tag : Value) (members : List (String × Value))
    (h : ∀ m ∈ members, m.1.toList ≠ ['t', 'y', 'p', 'e']) :
    tagged? (.ofMembers (("type", tag) :: members)) = some (tag, .ofMembers members) := by
  have hnone : members.filter (fun m => decide (m.1.toList = ['t', 'y', 'p', 'e'])) = [] := by
    simpa [List.filter_eq_nil_iff] using h
  have hall : members.filter (fun m => !decide (m.1.toList = ['t', 'y', 'p', 'e'])) = members := by
    simpa [List.filter_eq_self] using h
  simp [tagged?, Value.ofMembers, List.filter_map, Function.comp_def, hnone, hall]

private theorem admitted_of_plain {v : Value} (h : v.Plain) {level : Nat}
    (hd : level + v.depth < depthLimit) : admitted level v = true := by
  simp [admitted, h.isMeaningful, hd]

end Json

open Json (Value)

private theorem plain_state {n : Nat} (h : n < stateLimit) : (Value.ofNat n).Plain :=
  .number (Nat.lt_trans h (by decide))

namespace Action

/-- The numbers of an action fit into the words that hold them. -/
def Bounded : Action → Prop
  | shift state => state < stateLimit
  | reduce _ alternative len => alternative < countLimit ∧ len < countLimit
  | accept => True

instance : DecidablePred Bounded
  | shift state => inferInstanceAs (Decidable (state < stateLimit))
  | reduce _ alternative len =>
    inferInstanceAs (Decidable (alternative < countLimit ∧ len < countLimit))
  | accept => inferInstanceAs (Decidable True)

private theorem plain_toJson {a : Action} (h : a.Bounded) : a.toJson.Plain := by
  cases a with
  | shift state =>
    apply Value.plain_ofMembers
    simpa using ⟨.string _, plain_state h⟩
  | reduce expression alternative len =>
    apply Value.plain_ofMembers
    simpa using ⟨.string _, .string _, .number h.1, .number h.2⟩
  | accept =>
    apply Value.plain_ofMembers
    simpa using Value.Plain.string _

private theorem ofJson?_toJson {a : Action} (h : a.Bounded) : ofJson? a.toJson = some a := by
  have hdepth : a.toJson.depth = 1 := by cases a <;> rfl
  have ha : Json.admitted 4 a.toJson = true :=
    Json.admitted_of_plain (plain_toJson h) (by rw [hdepth]; decide)
  cases a with
  | shift state =>
    have hf : Json.fields? ["state"] (.ofMembers [("state", .ofNat state)]) =
        some [.ofNat state] := Json.fields?_ofMembers _ (by simp)
    simp only [ofJson?, ha]
    simp [toJson, Json.tagged?_ofMembers, hf, Json.Value.toNatBelow?_ofNat h]
  | reduce expression alternative len =>
    have hf : Json.fields? ["expression", "alternative", "len"]
        (.ofMembers [("expression", .ofString expression), ("alternative", .ofNat alternative),
          ("len", .ofNat len)]) = some [.ofString expression, .ofNat alternative, .ofNat len] :=
      Json.fields?_ofMembers _ (by simp)
    simp only [ofJson?, ha]
    simp [toJson, Json.tagged?_ofMembers, hf, Json.Value.toNatBelow?_ofNat h.1,
      Json.Value.toNatBelow?_ofNat h.2]
  | accept =>
    have ht := Json.tagged?_ofMembers (.ofString "accept") [] (by simp)
    simp only [ofJson?, ha]
    simp [toJson, ht]
    rfl

end Action

private theorem plain_entries {ν : Type} {write : ν → Value} {entries : List (String × ν)}
    (h : ∀ e ∈ entries, (write e.2).Plain) :
    (Value.ofMembers (entries.map fun e => (e.1, write e.2))).Plain := by
  apply Value.plain_ofMembers
  intro m hm
  obtain ⟨e, he, rfl⟩ := List.mem_map.1 hm
  exact h e he

private theorem textEntries?_ofMembers {ν : Type} {read : Value → Option ν} {write : ν → Value}
    {entries : List (String × ν)} (h : ∀ e ∈ entries, read (write e.2) = some e.2) :
    textEntries? read (.ofMembers (entries.map fun e => (e.1, write e.2))) = some entries := by
  simp only [textEntries?, Json.Value.ofMembers_eq, List.map_map]
  apply Json.mapM_map_eq_some
  intro e he
  simp [h e he]

private theorem stateKey?_toDigits {n : Nat} (h : n < stateLimit) :
    stateKey? (Nat.toDigits 10 n) = some n := by
  have hall : (Nat.toDigits 10 n).all Json.isDigit = true :=
    List.all_eq_true.2 fun c hc => Json.isDigit_of_mem_toDigits hc
  have hne : (Nat.toDigits 10 n).isEmpty = false := by simp [Nat.toDigits_ne_nil]
  simp [stateKey?, hall, hne, Json.toDigits_no_leading_zero, h]

namespace Row

/-- The numbers of a row fit into the words that hold them. -/
@[mk_iff]
structure Bounded (row : Row) : Prop where
  actions : ∀ e ∈ row.actions.entries, e.2.Bounded
  gotos : ∀ e ∈ row.gotos.entries, e.2 < stateLimit

instance (row : Row) : Decidable row.Bounded := decidable_of_iff _ (bounded_iff row).symm

private theorem toJson_eq (row : Row) : row.toJson = .ofMembers [
    ("actions", .ofMembers (row.actions.entries.map fun e => (e.1, e.2.toJson))),
    ("gotos", .ofMembers (row.gotos.entries.map fun e => (e.1, .ofNat e.2)))] := rfl

private theorem plain_toJson {row : Row} (h : row.Bounded) : row.toJson.Plain := by
  have hactions := plain_entries fun e he => Action.plain_toJson (h.actions e he)
  have hgotos := plain_entries fun e he => plain_state (h.gotos e he)
  rw [toJson_eq]
  apply Value.plain_ofMembers
  simpa using ⟨hactions, hgotos⟩

private theorem ofJson?_toJson {row : Row} (h : row.Bounded) : ofJson? row.toJson = some row := by
  have hactions := textEntries?_ofMembers fun e he => Action.ofJson?_toJson (h.actions e he)
  have hgotos := textEntries?_ofMembers fun e he => Json.Value.toNatBelow?_ofNat (h.gotos e he)
  have hf := Json.fields?_ofMembers
    [("actions", .ofMembers (row.actions.entries.map fun e => (e.1, e.2.toJson))),
      ("gotos", .ofMembers (row.gotos.entries.map fun e => (e.1, .ofNat e.2)))] (by simp)
  simp only [List.map_cons, List.map_nil] at hf
  simp [ofJson?, toJson_eq, hf, hactions, hgotos, Dict.ofList_entries]

end Row

namespace Table

/-- The numbers of a table fit into the words that hold them. -/
@[mk_iff]
structure Bounded (t : Table) : Prop where
  start : t.start < stateLimit
  ids : ∀ e ∈ t.states.entries, e.1 < stateLimit
  rows : ∀ e ∈ t.states.entries, e.2.Bounded

instance (t : Table) : Decidable t.Bounded := decidable_of_iff _ (bounded_iff t).symm

private theorem toJson_eq (t : Table) : t.toJson = .ofMembers [("start", .ofNat t.start),
    ("states", .object (t.states.entries.map fun e => (Nat.toDigits 10 e.1, e.2.toJson)))] := rfl

private theorem plain_toJson {t : Table} (h : t.Bounded) : t.toJson.Plain := by
  have hstates : (Value.object (t.states.entries.map fun e =>
      (Nat.toDigits 10 e.1, e.2.toJson))).Plain := by
    refine .object (fun m hm => ?_) fun m hm => ?_
    all_goals obtain ⟨e, he, rfl⟩ := List.mem_map.1 hm
    · exact ⟨_, (Json.escape_toDigits e.1).symm⟩
    · exact Row.plain_toJson (h.rows e he)
  rw [toJson_eq]
  apply Value.plain_ofMembers
  simpa using ⟨plain_state h.start, hstates⟩

private theorem ofJson?_toJson {t : Table} (h : t.Bounded) : ofJson? t.toJson = some t := by
  have hf := Json.fields?_ofMembers [("start", .ofNat t.start),
    ("states", .object (t.states.entries.map fun e => (Nat.toDigits 10 e.1, e.2.toJson)))]
    (by simp)
  simp only [List.map_cons, List.map_nil] at hf
  simp only [ofJson?, toJson_eq, hf, Option.bind_eq_bind, Option.bind_some,
    Json.Value.toNatBelow?_ofNat h.start]
  rw [Json.mapM_map_eq_some]
  · simp [Dict.ofList_entries]
  · intro e he
    simp [stateKey?_toDigits (h.ids e he), Row.ofJson?_toJson (h.rows e he)]

end Table

namespace Position

/-- The numbers of a place fit into the words that hold them. -/
@[mk_iff]
structure Bounded (p : Position) : Prop where
  index : p.index < countLimit
  row : p.row < countLimit
  column : p.column < countLimit
  length : p.length < countLimit

instance (p : Position) : Decidable p.Bounded := decidable_of_iff _ (bounded_iff p).symm

private theorem plain_toJson {p : Position} (h : p.Bounded) : p.toJson.Plain := by
  apply Value.plain_ofMembers
  simpa using ⟨.number h.index, .number h.row, .number h.column, .number h.length⟩

private theorem ofJson?_toJson {p : Position} (h : p.Bounded) : ofJson? p.toJson = some p := by
  have hf := Json.fields?_ofMembers [("index", .ofNat p.index), ("row", .ofNat p.row),
    ("column", .ofNat p.column), ("length", .ofNat p.length)] (by simp)
  simp only [List.map_cons, List.map_nil] at hf
  simp [ofJson?, toJson, hf, Json.Value.toNatBelow?_ofNat h.index,
    Json.Value.toNatBelow?_ofNat h.row, Json.Value.toNatBelow?_ofNat h.column,
    Json.Value.toNatBelow?_ofNat h.length]

end Position

namespace Token

private theorem plain_toJson {t : Token} (h : t.position.Bounded) : t.toJson.Plain := by
  apply Value.plain_ofMembers
  simpa using ⟨.string _, .string _, Position.plain_toJson h⟩

private theorem ofJson?_toJson {t : Token} (h : t.position.Bounded) :
    ofJson? t.toJson = some t := by
  have hf := Json.fields?_ofMembers [("name", .ofString t.name), ("content", .ofString t.content),
    ("position", t.position.toJson)] (by simp)
  simp only [List.map_cons, List.map_nil] at hf
  simp [ofJson?, toJson, hf, Position.ofJson?_toJson h]

end Token

namespace Tree

/-- The numbers of a tree fit into the words that hold them. -/
inductive Bounded : Tree → Prop
  | leaf {token : Token} : token.position.Bounded → Bounded (leaf token)
  | node {expression : String} {alternative : Nat} {children : List Tree} :
      alternative < countLimit → (∀ t ∈ children, Bounded t) →
      Bounded (node expression alternative children)

private theorem toJsonAll_eq (ts : List Tree) : toJsonAll ts = ts.map toJson := by
  induction ts with
  | nil => rfl
  | cons t ts ih => rw [toJsonAll, ih, List.map_cons]

private theorem plain_toJson {t : Tree} (h : t.Bounded) : t.toJson.Plain := by
  induction h with
  | leaf h =>
    apply Value.plain_ofMembers
    simpa using ⟨.string _, Token.plain_toJson h⟩
  | @node expression alternative children ha _ ih =>
    have hchildren : (Value.array (toJsonAll children)).Plain := by
      apply Value.Plain.array
      simpa [toJsonAll_eq] using ih
    apply Value.plain_ofMembers
    simpa using ⟨.string _, .string _, .number ha, hchildren⟩

private theorem depth_toJson_lt {t : Tree} {expression : String} {alternative : Nat}
    {children : List Tree} (h : t ∈ children) :
    t.toJson.depth < (node expression alternative children).toJson.depth := by
  have hle := Json.Value.depth_le_depthOfElements (List.mem_map_of_mem (f := toJson) h)
  have hnode : (node expression alternative children).toJson.depth =
      Value.depthOfElements (children.map toJson) + 2 := by
    simp [toJson, toJsonAll_eq, Value.ofMembers, Value.depth, Value.depthOfMembers,
      Value.ofString, Value.ofNat]
  omega

private theorem ofJsonBelow?_toJson {t : Tree} (h : t.Bounded) {fuel : Nat} (inner : Bool)
    (hf : t.toJson.depth ≤ fuel) : ofJsonBelow? fuel inner t.toJson = some t := by
  induction h generalizing fuel inner with
  | @leaf token h =>
    have hpos : 0 < (leaf token).toJson.depth := Nat.succ_pos _
    obtain ⟨fuel, rfl⟩ : ∃ n, fuel = n + 1 := ⟨fuel - 1, by omega⟩
    have hfields : Json.fields? ["token"] (.ofMembers [("token", token.toJson)]) =
        some [token.toJson] := Json.fields?_ofMembers _ (by simp)
    simp [ofJsonBelow?, toJson, Json.tagged?_ofMembers, formOfTag?, hfields,
      Token.ofJson?_toJson h]
  | @node expression alternative children ha _ ih =>
    have hpos : 0 < (node expression alternative children).toJson.depth := Nat.succ_pos _
    obtain ⟨fuel, rfl⟩ : ∃ n, fuel = n + 1 := ⟨fuel - 1, by omega⟩
    have hchildren : (toJsonAll children).mapM (ofJsonBelow? fuel true) = some children := by
      rw [toJsonAll_eq]
      apply Json.mapM_map_eq_some
      intro t ht
      have hlt : t.toJson.depth < (node expression alternative children).toJson.depth :=
        depth_toJson_lt ht
      exact ih t ht true (by omega)
    have hfields : Json.fields? ["expression", "alternative", "children"]
        (.ofMembers [("expression", .ofString expression), ("alternative", .ofNat alternative),
          ("children", .array (toJsonAll children))]) =
        some [.ofString expression, .ofNat alternative, .array (toJsonAll children)] :=
      Json.fields?_ofMembers _ (by simp)
    simp [ofJsonBelow?, toJson, Json.tagged?_ofMembers, formOfTag?, hfields, hchildren,
      Json.Value.toNatBelow?_ofNat ha]

private theorem ofJson?_toJson {t : Tree} (h : t.Bounded) (hd : t.toJson.depth < Json.depthLimit) :
    ofJson? t.toJson = some t := by
  rw [ofJson?, if_pos (Json.admitted_of_plain (plain_toJson h) (by omega))]
  exact ofJsonBelow?_toJson h false (by omega)

end Tree

/-- Tables, and trees that are nested less deeply than the limit, are read back as they were written. -/
theorem decode_encode :
    (∀ t : Table, t.Bounded → Table.decode? t.encode = some t) ∧
    ∀ t : Tree, t.Bounded → t.toJson.depth < Json.depthLimit → Tree.decode? t.encode = some t := by
  constructor
  · intro t h
    rw [Table.decode?, Table.encode, Json.parse_render (Table.plain_toJson h)]
    exact Table.ofJson?_toJson h
  · intro t h hd
    rw [Tree.decode?, Tree.encode, Json.parse_render (Tree.plain_toJson h)]
    exact Tree.ofJson?_toJson h hd

/-- A table with the greatest numbers, keys out of order, and names that need escapes. -/
def extremeTable : Table where
  start := 4294967295
  states := .ofList [
    (10, ⟨.ofList [("\"\\", .shift 4294967295), ("\x01\n", .accept),
      ("ß", .reduce "é\t" 18446744073709551615 0)], .ofList [("𝄞", 2), ("/", 0)]⟩),
    (9, ⟨.empty, .empty⟩)]

def extremeTree : Tree :=
  .node "\x1f" 18446744073709551615
    [.leaf ⟨"\"", "\r𝄞", ⟨18446744073709551615, 1, 0, 5⟩⟩, .node "" 0 []]

/-- The greatest numbers and awkward names come back. -/
theorem decode_encode_extreme :
    Table.decode? extremeTable.encode = some extremeTable ∧
    Tree.decode? extremeTree.encode = some extremeTree := by
  refine ⟨decode_encode.1 _ (by decide), decode_encode.2 _ (.node (by decide) ?_) (by decide)⟩
  simpa using ⟨.leaf (by decide), .node (by decide) (by simp)⟩

end CanonicalLR
