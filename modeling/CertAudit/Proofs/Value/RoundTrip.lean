/- Values that are written as JSON and read back. Truth values, texts and signed integers come back as
they were, and so do lists of values; an unsigned integer comes back signed where it can be. -/
import CertAudit.Proofs.Json.Spelling
import CertAudit.Proofs.Operator.Equality
namespace CertAudit.Value

/-- Truth values, integers and texts, and lists of such values with at most so many levels. -/
inductive Plain : Nat → Value → Prop
  | bool (levels : Nat) (b : Bool) : Plain levels (.bool b)
  | int (levels : Nat) (i : Int64) : Plain levels (.int i)
  | uint (levels : Nat) (n : UInt64) : Plain levels (.uint n)
  | string (levels : Nat) (s : String) : Plain levels (.string s)
  | list {levels : Nat} {items : List Value} (h : ∀ v ∈ items, Plain levels v) :
      Plain (levels + 1) (.list items)

mutual

/-- The value with all integers in it signed that can be. -/
def settled : Value → Value
  | .uint n => ofNat n.toNat
  | .list items => .list (settledItems items)
  | .bool b => .bool b
  | .int i => .int i
  | .float x => .float x
  | .bytes bs => .bytes bs
  | .string s => .string s
  | .time t => .time t

/-- The values with all integers in them signed that can be. -/
def settledItems : List Value → List Value
  | [] => []
  | v :: rest => settled v :: settledItems rest

end

variable {levels : Nat} {v : Value} {items : List Value}

theorem fits_int (i : Int64) : Json.Fits i.toInt := by
  have hlow := Int64.le_toInt i
  have hhigh := Int64.toInt_lt i
  constructor <;> omega

theorem fits_uint (n : UInt64) : Json.Fits n.toNat := by
  have h := n.toNat_lt
  constructor <;> omega

theorem itemsToJson_eq_map (items : List Value) : itemsToJson items = items.map toJson := by
  induction items with
  | nil => rfl
  | cons v rest ih => rw [itemsToJson, ih, List.map_cons]

/-- What a printer spells of each item it spells of the list of them. -/
theorem forall_itemsToJson {P : Json → Prop} (h : ∀ v ∈ items, P v.toJson) :
    ∀ j ∈ itemsToJson items, P j := by
  rw [itemsToJson_eq_map]
  exact List.forall_mem_map.mpr h

theorem Plain.spells_compact (h : v.Plain levels) :
    Json.Spells levels v.toJson v.toJson.compactChars := by
  induction h with
  | bool levels b => exact .bool levels b
  | int levels i => exact .integer levels (fits_int i)
  | uint levels n => exact .integer levels (fits_uint n)
  | string levels s => exact .string levels s
  | @list levels items _ ih =>
    cases items with
    | nil => exact .empty levels
    | cons v rest =>
      obtain ⟨hv, hrest⟩ := List.forall_mem_cons.mp ih
      have hitems := Json.spellsItems_compact hv (forall_itemsToJson hrest)
      have harray := Json.Spells.array Json.blank_nil hitems
      exact harray

theorem Plain.spells_indented (h : v.Plain levels) :
    ∀ level, Json.Spells levels v.toJson (v.toJson.indentedChars level) := by
  induction h with
  | bool levels b => exact fun _ => .bool levels b
  | int levels i => exact fun _ => .integer levels (fits_int i)
  | uint levels n => exact fun _ => .integer levels (fits_uint n)
  | string levels s => exact fun _ => .string levels s
  | @list levels items _ ih =>
    intro level
    cases items with
    | nil => exact .empty levels
    | cons v rest =>
      obtain ⟨hv, hrest⟩ := List.forall_mem_cons.mp fun w hw => ih w hw (level + 1)
      have hitems := Json.spellsItems_indented level hv (forall_itemsToJson hrest)
      have harray := Json.Spells.array (Json.blank_newLine (level + 1)) hitems
      simpa only [toJson, itemsToJson, Json.indentedChars, Json.indentedItems, Json.separator,
        if_true, List.nil_append, List.append_assoc] using harray

theorem ofNat_of_lt {n : Nat} (h : n < 2 ^ 63) : ofNat n = .int (Int64.ofNat n) := if_pos h

theorem ofNat_of_not_lt {n : Nat} (h : ¬ n < 2 ^ 63) : ofNat n = .uint (UInt64.ofNat n) := if_neg h

/-- An integer that is read is signed if it can be. -/
theorem ofInt?_natCast {n : Nat} (h : n < 2 ^ 64) : ofInt? n = some (ofNat n) := by
  have hlow : Int64.minValue.toInt ≤ n := by
    have := Int64.toInt_minValue
    omega
  by_cases hsmall : n < 2 ^ 63
  · have hhigh : (n : Int) ≤ Int64.maxValue.toInt := by
      have := Int64.toInt_maxValue
      omega
    rw [ofInt?, if_pos ⟨hlow, hhigh⟩, ofNat_of_lt hsmall, Int64.ofInt_eq_ofNat]
  · have hhigh : ¬ (n : Int) ≤ Int64.maxValue.toInt := by
      have := Int64.toInt_maxValue
      omega
    have hfits : 0 ≤ (n : Int) ∧ (n : Int) < UInt64.size := by
      simp only [UInt64.size]
      omega
    rw [ofInt?, if_neg fun h => hhigh h.2, if_pos hfits, ofNat_of_not_lt hsmall, Int.toNat_natCast]

theorem ofInt?_toInt (i : Int64) : ofInt? i.toInt = some (.int i) := by
  have hlow := Int64.le_toInt i
  have hhigh := Int64.toInt_lt i
  have hbounds : Int64.minValue.toInt ≤ i.toInt ∧ i.toInt ≤ Int64.maxValue.toInt := by
    rw [Int64.toInt_minValue, Int64.toInt_maxValue]
    omega
  rw [ofInt?, if_pos hbounds, Int64.ofInt_toInt]

theorem ofJsonItems?_itemsToJson (h : ∀ v ∈ items, ofJson? v.toJson = some v.settled) :
    ofJsonItems? (itemsToJson items) = some (settledItems items) := by
  induction items with
  | nil => rfl
  | cons v rest ih =>
    obtain ⟨hv, hrest⟩ := List.forall_mem_cons.mp h
    simp only [itemsToJson, ofJsonItems?, hv, ih hrest, settledItems]

theorem ofJson?_toJson (h : v.Plain levels) : ofJson? v.toJson = some v.settled := by
  induction h with
  | bool levels b => rfl
  | int levels i => exact ofInt?_toInt i
  | uint levels n => exact ofInt?_natCast n.toNat_lt
  | string levels s => rfl
  | @list levels items _ ih =>
    rw [toJson, ofJson?, ofJsonItems?_itemsToJson ih]
    rfl

theorem itemsEqual_settledItems (h : ∀ v ∈ items, v.equals v.settled = true) :
    itemsEqual items (settledItems items) = true := by
  induction items with
  | nil => rfl
  | cons v rest ih =>
    obtain ⟨hv, hrest⟩ := List.forall_mem_cons.mp h
    rw [settledItems, itemsEqual, hv, ih hrest]
    rfl

/-- An integer is the same number, signed or not. -/
theorem Plain.equals_settled (h : v.Plain levels) : v.equals v.settled = true := by
  induction h with
  | bool levels b => exact beq_self_eq_true b
  | int levels i => exact beq_self_eq_true i
  | uint levels n =>
    by_cases hsmall : n.toNat < 2 ^ 63
    · rw [settled, ofNat_of_lt hsmall, equals, Int64.toInt_ofNat_of_lt hsmall]
      exact beq_self_eq_true _
    · rw [settled, ofNat_of_not_lt hsmall, UInt64.ofNat_toNat]
      exact beq_self_eq_true n
  | string levels s => exact beq_self_eq_true s
  | list _ ih => exact itemsEqual_settledItems ih

/-- Booleans, integers, texts and lists of them, nested less deeply than can be read, come back from
their JSON texts, the compact one and the indented one, with integers signed where they can be. What
comes back equals what was written. -/
theorem parse?_toJson (h : v.Plain levels) (hlevels : levels < Json.maxDepth) :
    parse? v.toJson.compact = some v.settled ∧ parse? v.toJson.indented = some v.settled ∧
      v.equals v.settled = true ∧ v.settled.equals v = true := by
  have hread : ∀ {cs : List Char}, Json.Spells levels v.toJson cs →
      parse? (String.ofList cs) = some v.settled := by
    intro cs hcs
    rw [parse?, Json.parse?_of_spells hcs hlevels]
    exact ofJson?_toJson h
  exact ⟨hread h.spells_compact, hread (h.spells_indented 0), h.equals_settled,
    (equals_comm v.settled v).trans h.equals_settled⟩

/-- Integers on both sides of the signed bound and a text with a quote, a control character and a
character outside the basic plane. -/
def mixed : Value :=
  .list [.bool true, .int (-7), .uint 7, .uint 0x8000000000000000,
    .list [.string "\"\\\n\x01é😀", .list []]]

theorem plain_mixed : mixed.Plain 3 := by
  refine .list ?_
  simp only [List.forall_mem_cons, List.not_mem_nil, false_imp_iff, implies_true, and_true]
  refine ⟨.bool _ _, .int _ _, .uint _ _, .uint _ _, .list ?_⟩
  simp only [List.forall_mem_cons, List.not_mem_nil, false_imp_iff, implies_true, and_true]
  exact ⟨.string _ _, .list fun _ h => nomatch h⟩

theorem parse?_toJson_mixed :
    mixed.Plain 3 ∧ 3 < Json.maxDepth ∧
      parse? mixed.toJson.compact = some (.list [.bool true, .int (-7), .int 7,
        .uint 0x8000000000000000, .list [.string "\"\\\n\x01é😀", .list []]]) ∧
      mixed.equals mixed.settled = true := by
  have hlevels : 3 < Json.maxDepth := by decide
  obtain ⟨hcompact, -, hequals, -⟩ := parse?_toJson plain_mixed hlevels
  exact ⟨plain_mixed, hlevels, hcompact, hequals⟩

end CertAudit.Value
