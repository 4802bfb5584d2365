import DesignTokens.Proofs.Json.Lexeme
import DesignTokens.Proofs.Json.Writable
import DesignTokens.Tree
import DesignTokens.Value.Key

/-! Keys of values: two values have one key only if they are of one kind and equal up to
the order of keys in objects, or if one is text and happens to be the JSON text of the
other. -/
namespace DesignTokens

namespace Value

/-- Equality of two values that are not both lists nor both objects. What is no number is
one value, whatever its payload. -/
def alikePlain : Value → Value → Bool
  | .float x, .float y => x = y || (x.isNaN && y.isNaN)
  | v, w => v = w

mutual

/-- Objects are alike when they have equally many keys and alike items under each. -/
def alike : Value → Value → Bool
  | .list xs, .list ys => alikeItems xs ys
  | .object xs, .object ys => xs.length = ys.length && alikeFields xs ys
  | v, w => alikePlain v w

def alikeItems : List Value → List Value → Bool
  | [], [] => true
  | x :: xs, y :: ys => alike x y && alikeItems xs ys
  | _, _ => false

def alikeFields : Entries Value → Entries Value → Bool
  | [], _ => true
  | (k, x) :: xs, ys =>
    (match ys.lookup k with
      | some y => alike x y
      | none => false) && alikeFields xs ys

end

theorem alike_of_lead? {v : Value} (word : Json.lead? v = none) (w : Value) :
    v.alike w = alikePlain v w := by
  cases v with
  | null | bool | int | float => simp only [alike]
  | _ => contradiction

theorem alikeItems_of_map {items items' : List Value} {f g : Value → List Char}
    (same : items.map f = items'.map g)
    (each : ∀ item ∈ items, ∀ item' ∈ items', f item = g item' → item.alike item' = true) :
    alikeItems items items' = true := by
  induction items generalizing items' with
  | nil =>
    obtain rfl := List.map_eq_nil_iff.mp same.symm
    rfl
  | cons item rest ih =>
    cases items' with
    | nil => contradiction
    | cons item' rest' =>
      obtain ⟨first, others⟩ := List.cons.inj same
      have later : ∀ other ∈ rest, ∀ other' ∈ rest',
          f other = g other' → other.alike other' = true :=
        fun other member other' member' =>
          each other (List.mem_cons_of_mem _ member) other' (List.mem_cons_of_mem _ member')
      rw [alikeItems, each item List.mem_cons_self item' List.mem_cons_self first, ih others later]
      rfl

theorem alikeFields_of_lookup {fields fields' : Entries Value}
    (found : ∀ field ∈ fields, ∃ item, fields'.lookup field.1 = some item ∧
      field.2.alike item = true) : alikeFields fields fields' = true := by
  induction fields with
  | nil => rfl
  | cons field rest ih =>
    obtain ⟨⟨item, known, same⟩, others⟩ := List.forall_mem_cons.mp found
    rw [alikeFields, known, ih others]
    dsimp only
    rw [same, Bool.and_self]

theorem canonicalItems_eq_map (items : List Value) :
    canonicalItems items = items.map canonical := by
  induction items with
  | nil => rfl
  | cons item rest ih => rw [canonicalItems, ih, List.map_cons]

theorem canonicalFields_eq_map (fields : Entries Value) :
    canonicalFields fields = fields.map fun field => (field.1, field.2.canonical) := by
  induction fields with
  | nil => rfl
  | cons field rest ih => rw [canonicalFields, ih, List.map_cons]

theorem lead?_canonical (v : Value) : Json.lead? v.canonical = Json.lead? v := by
  cases v <;> rfl

theorem canonical_of_lead? {v : Value} (word : Json.lead? v = none) : v.canonical = v := by
  cases v with
  | null | bool | int | float => rfl
  | _ => contradiction

/-- The kind of value that a text without brackets or quotes is that of. -/
def wordKind (text : List Char) : String :=
  if text.any fun c => c = 'l' || c = 'r' then
    if text = "null".toList then "NoneType" else "bool"
  else if text.all fun c => c.isDigit || c = '-' then "int" else "float"

theorem isDigit_not_letter {c : Char} (digit : c.isDigit = true) :
    ¬ (c = 'l' || c = 'r') = true := by
  simp only [Bool.or_eq_true, decide_eq_true_iff, not_or]
  constructor
  all_goals
    rintro rfl
    contradiction

theorem wordKind_valueText {v : Value} (word : Json.lead? v = none) (depth : Nat) :
    wordKind (Json.valueText none depth v) = Tree.kindName v := by
  cases v with
  | null => rw [Json.valueText]; rfl
  | bool b =>
    cases b with
    | false | true => rw [Json.valueText]; rfl
  | int n =>
    have noLetter : (Numeral.text n).any (fun c => c = 'l' || c = 'r') = false := by
      refine List.any_eq_false.mpr fun c member => ?_
      rcases Json.isDigit_of_mem_text member with digit | rfl
      · exact isDigit_not_letter digit
      · decide
    have digits : (Numeral.text n).all (fun c => c.isDigit || c = '-') = true := by
      refine List.all_eq_true.mpr fun c member => ?_
      rw [Bool.or_eq_true, decide_eq_true_iff]
      exact Json.isDigit_of_mem_text member
    rw [Json.valueText, wordKind, noLetter, digits]
    rfl
  | float x =>
    have noLetter : (x.text Json.spelling).any (fun c => c = 'l' || c = 'r') = false := by
      refine List.any_eq_false.mpr (Binary64.forall_mem_text ?_ ?_ ?_ x)
      · exact fun c => isDigit_not_letter
      · exact List.any_eq_false.mp rfl
      · exact List.any_eq_false.mp rfl
    have mark : (x.text Json.spelling).all (fun c => c.isDigit || c = '-') = false := by
      obtain ⟨c, member, noDigit, noSign⟩ := Json.spelling_isClear.exists_mem_text x
      refine List.all_eq_false.mpr ⟨c, member, ?_⟩
      simp [noDigit, noSign]
    rw [Json.valueText, wordKind, noLetter, mark]
    rfl
  | _ => contradiction

/-- Words with one text are one value, or neither is a number. -/
theorem alikePlain_of_text {v w : Value} (word : Json.lead? v = none) (word' : Json.lead? w = none)
    {depth depth' : Nat}
    (same : Json.valueText none depth v = Json.valueText none depth' w) :
    alikePlain v w = true := by
  have kinds : Tree.kindName v = Tree.kindName w := by
    rw [← wordKind_valueText word depth, same, wordKind_valueText word']
  cases v with
  | null => cases w with
    | null => rfl
    | _ => simp [Tree.kindName] at kinds
  | bool b => cases w with
    | bool b' =>
      cases b with
      | false => cases b' with
        | false => rfl
        | true => simp [Json.valueText] at same
      | true => cases b' with
        | false => simp [Json.valueText] at same
        | true => rfl
    | _ => simp [Tree.kindName] at kinds
  | int n => cases w with
    | int n' =>
      rw [Json.valueText, Json.valueText] at same
      obtain rfl : n = n' := Json.text_inj same
      exact decide_eq_true rfl
    | _ => simp [Tree.kindName] at kinds
  | float x => cases w with
    | float y =>
      rw [Json.valueText, Json.valueText] at same
      rw [alikePlain, Bool.or_eq_true, Bool.and_eq_true, decide_eq_true_iff]
      exact Json.spelling_isClear.eq_of_text same
    | _ => simp [Tree.kindName] at kinds
  | _ => contradiction

section

variable {depth depth' : Nat}

theorem lead?_eq_of_canonical {v w : Value}
    (same : Json.valueText none depth v.canonical = Json.valueText none depth' w.canonical) :
    Json.lead? v = Json.lead? w := by
  have leads := Json.lead?_eq_of_append (congrArg (· ++ []) same)
  rw [lead?_canonical, lead?_canonical] at leads
  exact leads

theorem mem_sortedFields {fields : Entries Value} {field : String × Value} :
    field ∈ sortedFields (canonicalFields fields) ↔
      ∃ declared ∈ fields, (declared.1, declared.2.canonical) = field := by
  rw [sortedFields, List.mem_mergeSort, canonicalFields_eq_map, List.mem_map]

theorem length_sortedFields (fields : Entries Value) :
    (sortedFields (canonicalFields fields)).length = fields.length := by
  rw [sortedFields, List.length_mergeSort, canonicalFields_eq_map, List.length_map]

/-- Every field has its equal among those of an object with the same text. -/
theorem exists_field_of_canonical {fields fields' : Entries Value}
    (same : Json.valueText none depth (object fields).canonical =
      Json.valueText none depth' (object fields').canonical)
    {field : String × Value} (member : field ∈ fields) :
    ∃ field' ∈ fields', field.1 = field'.1 ∧
      Json.valueText none (depth + 1) field.2.canonical =
        Json.valueText none (depth' + 1) field'.2.canonical := by
  rw [canonical, canonical] at same
  have written : Json.fieldText none (depth + 1) (field.1, field.2.canonical) ∈
      (sortedFields (canonicalFields fields')).map (Json.fieldText none (depth' + 1)) := by
    rw [← Json.fieldTexts_eq same]
    exact List.mem_map_of_mem (mem_sortedFields.mpr ⟨field, member, rfl⟩)
  obtain ⟨other, sorted, text⟩ := List.mem_map.mp written
  obtain ⟨field', member', rfl⟩ := mem_sortedFields.mp sorted
  obtain ⟨keys, texts⟩ := Json.field_of_fieldText text
  exact ⟨field', member', keys.symm, texts.symm⟩

private theorem length_eq_of_canonical {fields fields' : Entries Value}
    (same : Json.valueText none depth (object fields).canonical =
      Json.valueText none depth' (object fields').canonical) : fields.length = fields'.length := by
  rw [canonical, canonical] at same
  have lengths := congrArg List.length (Json.fieldTexts_eq same)
  rw [List.length_map, List.length_map, length_sortedFields, length_sortedFields] at lengths
  exact lengths

/-- Well-keyed values whose canonical forms have one JSON text are alike. -/
theorem alike_of_canonical {v w : Value} (h : v.isWellKeyed = true) (h' : w.isWellKeyed = true)
    (same : Json.valueText none depth v.canonical = Json.valueText none depth' w.canonical) :
    v.alike w = true := by
  have leads := lead?_eq_of_canonical same
  induction v using Value.induction generalizing w depth depth' with
  | str s =>
    obtain ⟨t, rfl⟩ := Json.eq_str_of_lead? leads.symm
    change Json.valueText none depth (str s) = Json.valueText none depth' (str t) at same
    rw [Json.valueText, Json.valueText] at same
    obtain ⟨rfl, -⟩ := Json.stringText_append_inj (congrArg (· ++ []) same)
    simp [alike, alikePlain]
  | list items ih =>
    obtain ⟨items', rfl⟩ := Json.eq_list_of_lead? leads.symm
    rw [canonical, canonical, canonicalItems_eq_map, canonicalItems_eq_map] at same
    have texts := Json.itemTexts_eq same
    rw [List.map_map, List.map_map] at texts
    rw [alike]
    refine alikeItems_of_map texts fun item member item' member' text => ?_
    exact ih item member (isWellKeyed_list_iff.mp h item member)
      (isWellKeyed_list_iff.mp h' item' member') text (lead?_eq_of_canonical text)
  | object fields ih =>
    obtain ⟨fields', rfl⟩ := Json.eq_object_of_lead? leads.symm
    obtain ⟨-, inside⟩ := isWellKeyed_object_iff.mp h
    obtain ⟨distinct', inside'⟩ := isWellKeyed_object_iff.mp h'
    rw [alike, decide_eq_true (length_eq_of_canonical same), Bool.true_and]
    refine alikeFields_of_lookup fun field member => ?_
    obtain ⟨⟨key, item⟩, member', named, texts⟩ := exists_field_of_canonical same member
    refine ⟨item, named ▸ Entries.lookup_of_mem distinct' member', ?_⟩
    exact ih field member (inside field member) (inside' _ member') texts
      (lead?_eq_of_canonical texts)
  | _ =>
    rw [canonical_of_lead? rfl, canonical_of_lead? leads.symm] at same
    rw [alike_of_lead? rfl]
    exact alikePlain_of_text rfl leads.symm same

end

theorem isWritable_canonical_iff {room : Nat} {v : Value} :
    v.canonical.IsWritable room ↔ v.IsWritable room := by
  induction v using Value.induction generalizing room with
  | list items ih =>
    rw [canonical, canonicalItems_eq_map]
    cases room with
    | zero => exact iff_of_false not_isWritable_list_zero not_isWritable_list_zero
    | succ room =>
      rw [isWritable_list_iff, isWritable_list_iff, List.forall_mem_map]
      exact forall₂_congr fun item member => ih item member
  | object fields ih =>
    rw [canonical]
    cases room with
    | zero => exact iff_of_false not_isWritable_object_zero not_isWritable_object_zero
    | succ room =>
      rw [isWritable_object_iff, isWritable_object_iff, sortedFields, canonicalFields_eq_map]
      simp only [List.mem_mergeSort, List.forall_mem_map]
      exact forall₂_congr fun field member => ih field member
  | str s => exact iff_of_true (isWritable_str s) (isWritable_str s)
  | _ => rw [canonical_of_lead? rfl]

/-- The text that is the key of a value if it can be written. -/
def keyText : Value → String
  | .str s => s
  | other => Json.text none other.canonical

section

variable {room : Nat} {v : Value} {key : String}

theorem key_of_not_str (other : ∀ s, v ≠ .str s) :
    v.key room = Json.print room none v.canonical := by
  cases v with
  | str s => exact absurd rfl (other s)
  | _ => rfl

theorem keyText_of_not_str (other : ∀ s, v ≠ .str s) :
    v.keyText = Json.text none v.canonical := by
  cases v with
  | str s => exact absurd rfl (other s)
  | _ => rfl

theorem key_eq_ok_iff : v.key room = .ok key ↔ v.IsWritable room ∧ v.keyText = key := by
  by_cases text : ∃ s, v = .str s
  · obtain ⟨s, rfl⟩ := text
    rw [Value.key, keyText, Except.ok.injEq, and_iff_right (isWritable_str s)]
  · have other := not_exists.mp text
    rw [key_of_not_str other, keyText_of_not_str other, Json.print_eq_ok_iff,
      isWritable_canonical_iff]

theorem key_of_isWritable (writes : v.IsWritable room) : v.key room = .ok v.keyText :=
  key_eq_ok_iff.mpr ⟨writes, rfl⟩

theorem map_key_eq_ok_iff {α : Type} {f : String → α} {a : α} :
    (v.key room).map f = .ok a ↔ v.IsWritable room ∧ f v.keyText = a := by
  cases found : v.key room with
  | error fault =>
    refine iff_of_false nofun fun ⟨writes, _⟩ => ?_
    cases found.symm.trans (key_of_isWritable writes)
  | ok key =>
    obtain ⟨writes, rfl⟩ := key_eq_ok_iff.mp found
    rw [and_iff_right writes]
    exact ⟨Except.ok.inj, congrArg Except.ok⟩

/-- A value has a key exactly if it can be written. -/
theorem exists_key_iff : (∃ key, v.key room = .ok key) ↔ v.IsWritable room := by
  simp only [key_eq_ok_iff, exists_and_left, exists_eq', and_true]

end

/-- The smallest integer that cannot be written. -/
def longInteger : Value := .int Numeral.bound

/-- Lists inside each other, one more than so many. -/
def tower : Nat → Value
  | 0 => .list []
  | floors + 1 => .list [tower floors]

theorem not_isWritable_longInteger (room : Nat) : ¬longInteger.IsWritable room := by
  have long : Numeral.isWritable Numeral.bound = false := by
    rw [Numeral.isWritable, Int.natAbs_natCast]
    exact decide_eq_false (Nat.lt_irrefl _)
  rw [longInteger, isWritable_int_iff, long]
  exact Bool.false_ne_true

theorem nesting_tower (floors : Nat) : (tower floors).nesting = floors + 1 := by
  induction floors with
  | zero => rfl
  | succ floors ih => rw [tower, nesting, nestingOfItems, nestingOfItems, ih, Nat.max_zero]

theorem not_isWritable_tower {room floors : Nat} (high : room ≤ floors) :
    ¬(tower floors).IsWritable room := by
  intro writes
  have bounded := writes.nesting
  rw [nesting_tower] at bounded
  omega

/-- Whether one value is text that reads as the JSON text of the other, which is none. -/
def spells (v w : Value) : Prop :=
  v = .str (Json.text none w.canonical) ∧ ∀ s, w ≠ .str s

/-- Two values have one key only if they are alike or one spells the other. -/
theorem alike_or_spells_of_keyText {v w : Value} (h : v.isWellKeyed = true)
    (h' : w.isWellKeyed = true) (same : v.keyText = w.keyText) :
    v.alike w = true ∨ v.spells w ∨ w.spells v := by
  by_cases text : ∃ s, v = .str s
  · obtain ⟨s, rfl⟩ := text
    by_cases text' : ∃ t, w = .str t
    · obtain ⟨t, rfl⟩ := text'
      obtain rfl : s = t := same
      left
      simp [alike, alikePlain]
    · have other := not_exists.mp text'
      obtain rfl : s = Json.text none w.canonical := same.trans (keyText_of_not_str other)
      exact Or.inr (Or.inl ⟨rfl, other⟩)
  · have other := not_exists.mp text
    by_cases text' : ∃ t, w = .str t
    · obtain ⟨t, rfl⟩ := text'
      obtain rfl : t = Json.text none v.canonical := same.symm.trans (keyText_of_not_str other)
      exact Or.inr (Or.inr ⟨rfl, other⟩)
    · rw [keyText_of_not_str other, keyText_of_not_str (not_exists.mp text')] at same
      exact Or.inl (alike_of_canonical h h' (String.ofList_inj.mp same))

end Value

end DesignTokens
