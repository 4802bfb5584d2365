import DesignTokens.Proofs.Entries.Overlay
import DesignTokens.Proofs.Json.Lexeme
import DesignTokens.Proofs.Json.Reader
import DesignTokens.Proofs.Json.Writable

/-! Reading undoes printing. Wherever a value may come, the reader goes from the text of the
value to the value, however the text is laid out and whatever it has open. -/
namespace DesignTokens

namespace Value

def isFloat : Value → Bool
  | .float _ => true
  | _ => false

end Value

namespace Json

section

variable {bound : Option Nat} {state next last : State} {text middle rest : List Char}

def readFrom (bound : Option Nat) (line : Nat) (state : State) (text : List Char) :
    Except Failure Value :=
  read bound (lexemes line text).2 state (lexemes line text).1

/-- Reading goes on from one state and text to another, whatever the line. -/
def Leads (bound : Option Nat) (state : State) (text : List Char) (next : State)
    (rest : List Char) : Prop :=
  ∀ line, ∃ line', readFrom bound line state text = readFrom bound line' next rest

theorem Leads.refl (state : State) (text : List Char) : Leads bound state text state text :=
  fun line => ⟨line, rfl⟩

theorem Leads.trans (first : Leads bound state text next middle)
    (others : Leads bound next middle last rest) : Leads bound state text last rest := by
  intro line
  obtain ⟨line', there⟩ := first line
  obtain ⟨line'', on⟩ := others line'
  exact ⟨line'', there.trans on⟩

theorem leads_blanks {blanks : List Char} (blank : ∀ c ∈ blanks, isSpace c = true) :
    Leads bound state (blanks ++ rest) state rest := by
  induction blanks with
  | nil => exact Leads.refl state rest
  | cons c others ih =>
    obtain ⟨space, blank⟩ := List.forall_mem_cons.mp blank
    refine Leads.trans (fun line => ⟨if c = '\n' then line + 1 else line, ?_⟩) (ih blank)
    rw [readFrom, List.cons_append, lexemes, if_pos space, readFrom]

theorem Begins.leads {token : Token} (begins : Begins token text rest)
    (taken : state.take bound token = .ok next) : Leads bound state text next rest := by
  intro line
  refine ⟨line, ?_⟩
  rw [readFrom, begins line, read, taken, readFrom]

theorem leads_punctuation {c : Char} {token : Token} (mark : punctuation? c = some token)
    (taken : state.take bound token = .ok next) : Leads bound state (c :: rest) next rest :=
  (begins_punctuation mark rest).leads taken

theorem leads_string {s : String} (taken : state.take bound (.string s) = .ok next) :
    Leads bound state (stringText s ++ rest) next rest :=
  (begins_string s rest).leads taken

end

def Indent.IsBlank (indent : Indent) : Prop := ∀ level ∈ indent, ∀ c ∈ level, isSpace c = true

theorem isBlank_columns (n : Int) : Indent.IsBlank (columns n) := by
  intro level member c inside
  obtain rfl := Option.some.inj member
  rw [List.eq_of_mem_replicate inside]
  rfl

section

variable {indent : Indent} (blank : indent.IsBlank)

include blank

theorem isSpace_of_mem_lineBreak (depth : Nat) :
    ∀ c ∈ lineBreak indent depth, isSpace c = true := by
  intro c member
  cases indent with
  | none => contradiction
  | some level =>
    rcases List.mem_cons.mp member with rfl | inside
    · rfl
    · obtain ⟨copy, copies, inside⟩ := List.mem_flatten.mp inside
      rw [List.eq_of_mem_replicate copies] at inside
      exact blank level rfl c inside

/-- A comma and the blanks behind it. -/
theorem exists_separator (depth : Nat) :
    ∃ blanks, separator indent depth = ',' :: blanks ∧ ∀ c ∈ blanks, isSpace c = true := by
  cases indent with
  | none => exact ⟨[' '], rfl, List.all_eq_true.mp rfl⟩
  | some level => exact ⟨_, rfl, isSpace_of_mem_lineBreak blank depth⟩

omit blank in
theorem isClosed_lineBreak (depth : Nat) {stop : Char} (mark : isBare stop = false)
    (rest : List Char) : IsClosed (lineBreak indent depth ++ stop :: rest) := by
  cases indent with
  | none => exact isClosed_cons mark rest
  | some level => exact isClosed_cons rfl _

end

theorem enclosed_cons_append (indent : Indent) (depth : Nat) (start stop : Char)
    (part : List Char) (parts : List (List Char)) (rest : List Char) :
    enclosed indent depth start stop (part :: parts) ++ rest =
      start :: (lineBreak indent (depth + 1) ++
        (List.intercalate (separator indent (depth + 1)) (part :: parts) ++
          (lineBreak indent depth ++ stop :: rest))) := by
  simp [enclosed]

/-- Whether a value may come next, be it the first item of a list. -/
def Need.IsOpen (need : Need) : Prop := need = .value ∨ need = .firstItem

/-- The text of a value is read as the value, wherever one may come. -/
def Reads (bound : Option Nat) (indent : Indent) (v : Value) : Prop :=
  ∀ {stack : List Open} {need : Need} {rest : List Char} (depth : Nat),
    need.IsOpen → IsClosed rest →
      Leads bound ⟨stack, need⟩ (valueText indent depth v ++ rest) ⟨stack, .afterValue v⟩ rest

section

variable {bound : Option Nat} {indent : Indent}

private theorem take_scalar {stack : List Open} {need : Need} {v : Value} (opens : need.IsOpen)
    (small : isTooLarge bound v = false) :
    State.take bound ⟨stack, need⟩ (.scalar v) = .ok ⟨stack, .afterValue v⟩ := by
  rcases opens with rfl | rfl
  all_goals
    unfold State.take
    simp only [small]
    rfl

/-- A word or an integer. -/
theorem reads_word {v : Value} (word : lead? v = none) (small : isTooLarge bound v = false)
    (scanned : ∀ rest, IsClosed rest → (scanWord (valueText none 0 v ++ rest)).or
      (scanNumber (valueText none 0 v ++ rest)) = some (v, rest)) : Reads bound indent v := by
  intro stack need rest depth opens closed
  rw [valueText_of_lead? word]
  exact (begins_word word (scanned rest closed)).leads (take_scalar opens small)

theorem reads_bool (b : Bool) : Reads bound indent (.bool b) := by
  refine reads_word rfl rfl fun rest closed => ?_
  cases b with
  | false | true =>
    rw [valueText]
    rfl

theorem reads_int {n : Int} (small : isTooLarge bound (.int n) = false) :
    Reads bound indent (.int n) := by
  refine reads_word rfl small fun rest closed => ?_
  rw [valueText, scanWord_text, scanNumber_text n closed, Option.none_or]

theorem reads_str (s : String) : Reads bound indent (.str s) := by
  intro stack need rest depth opens closed
  rw [valueText]
  rcases opens with rfl | rfl
  all_goals exact leads_string rfl

section

variable (blank : indent.IsBlank) {stack : List Open} {rest : List Char} {depth outer : Nat}

include blank

/-- The items of a list from one on, up to the bracket that closes it. -/
theorem leads_items {item : Value} {items : List Value}
    (each : ∀ v ∈ item :: items, Reads bound indent v) {done : List Value} {need : Need}
    (opens : need.IsOpen) :
    Leads bound ⟨.list done :: stack, need⟩
      (List.intercalate (separator indent depth) ((item :: items).map (valueText indent depth)) ++
        (lineBreak indent outer ++ ']' :: rest))
      ⟨stack, .afterValue (.list (done.reverse ++ item :: items))⟩ rest := by
  induction items generalizing item done need with
  | nil =>
    have ends : State.take bound ⟨.list done :: stack, .afterValue item⟩ .endList =
        .ok ⟨stack, .afterValue (.list (done.reverse ++ [item]))⟩ :=
      List.reverse_cons ▸ rfl
    rw [List.map_singleton, List.intercalate_singleton]
    exact ((each item List.mem_cons_self depth opens (isClosed_lineBreak outer rfl rest)).trans
      (leads_blanks (isSpace_of_mem_lineBreak blank outer))).trans (leads_punctuation rfl ends)
  | cons second others ih =>
    obtain ⟨first, each⟩ := List.forall_mem_cons.mp each
    obtain ⟨blanks, comma, spaces⟩ := exists_separator blank depth
    have later := @ih second each (item :: done) .value (Or.inl rfl)
    rw [List.reverse_cons, List.append_assoc, comma] at later
    rw [List.map_cons, List.map_cons, List.intercalate_cons_cons, comma, List.append_assoc,
      List.append_assoc]
    exact ((first depth opens (isClosed_cons rfl _)).trans (leads_punctuation rfl rfl)).trans
      ((leads_blanks spaces).trans later)

theorem reads_list {items : List Value} (each : ∀ item ∈ items, Reads bound indent item) :
    Reads bound indent (.list items) := by
  intro stack need rest depth opens closed
  have begun : State.take bound ⟨stack, need⟩ .beginList = .ok ⟨.list [] :: stack, .firstItem⟩ := by
    rcases opens with rfl | rfl
    all_goals rfl
  rw [valueText, itemTexts_eq_map]
  cases items with
  | nil => exact (leads_punctuation rfl begun).trans (leads_punctuation rfl rfl)
  | cons item items =>
    rw [List.map_cons, enclosed_cons_append, ← List.map_cons]
    exact ((leads_punctuation rfl begun).trans
      (leads_blanks (isSpace_of_mem_lineBreak blank (depth + 1)))).trans
        (leads_items blank each (Or.inr rfl))

omit blank in
/-- A name, and the value behind it. -/
theorem leads_field {field : String × Value} (reads : Reads bound indent field.2)
    {fields : Entries Value} {first : Bool} (closed : IsClosed rest) :
    Leads bound ⟨stack, .name fields first⟩ (fieldText indent depth field ++ rest)
      ⟨.object fields field.1 :: stack, .afterValue field.2⟩ rest := by
  have named : State.take bound ⟨stack, .name fields first⟩ (.string field.1) =
      .ok ⟨stack, .colon fields field.1⟩ := by
    cases first with
    | false | true => rfl
  have parted : Leads bound ⟨stack, .colon fields field.1⟩
      (':' :: ([' '] ++ (valueText indent depth field.2 ++ rest)))
      ⟨.object fields field.1 :: stack, .value⟩ (valueText indent depth field.2 ++ rest) :=
    (leads_punctuation rfl rfl).trans (leads_blanks (List.all_eq_true.mp rfl))
  rw [fieldText, List.append_assoc]
  exact ((leads_string named).trans parted).trans (reads depth (Or.inl rfl) closed)

/-- The fields of an object from one on, up to the brace that closes it. -/
theorem leads_fields {field : String × Value} {fields : Entries Value}
    (each : ∀ other ∈ field :: fields, Reads bound indent other.2) {before : Entries Value}
    (distinct : (before ++ field :: fields).keys.Nodup) {first : Bool} :
    Leads bound ⟨stack, .name before first⟩
      (List.intercalate (separator indent depth) ((field :: fields).map (fieldText indent depth)) ++
        (lineBreak indent outer ++ '}' :: rest))
      ⟨stack, .afterValue (.object (before ++ field :: fields))⟩ rest := by
  have put := Entries.put_of_nodup distinct
  induction fields generalizing field before first with
  | nil =>
    have ends : State.take bound ⟨.object before field.1 :: stack, .afterValue field.2⟩ .endObject =
        .ok ⟨stack, .afterValue (.object (before ++ [field]))⟩ :=
      put ▸ rfl
    rw [List.map_singleton, List.intercalate_singleton]
    exact ((leads_field (each field List.mem_cons_self) (isClosed_lineBreak outer rfl rest)).trans
      (leads_blanks (isSpace_of_mem_lineBreak blank outer))).trans (leads_punctuation rfl ends)
  | cons second others ih =>
    obtain ⟨here, each⟩ := List.forall_mem_cons.mp each
    obtain ⟨blanks, comma, spaces⟩ := exists_separator blank depth
    have on : State.take bound ⟨.object before field.1 :: stack, .afterValue field.2⟩ .comma =
        .ok ⟨stack, .name (before ++ [field]) false⟩ :=
      put ▸ rfl
    rw [List.append_cons] at distinct
    have later := @ih second each (before ++ [field]) distinct false (Entries.put_of_nodup distinct)
    rw [← List.append_cons, comma] at later
    rw [List.map_cons, List.map_cons, List.intercalate_cons_cons, comma, List.append_assoc,
      List.append_assoc]
    exact ((leads_field here (isClosed_cons rfl _)).trans (leads_punctuation rfl on)).trans
      ((leads_blanks spaces).trans later)

theorem reads_object {fields : Entries Value} (distinct : fields.keys.Nodup)
    (each : ∀ field ∈ fields, Reads bound indent field.2) :
    Reads bound indent (.object fields) := by
  intro stack need rest depth opens closed
  have begun : State.take bound ⟨stack, need⟩ .beginObject = .ok ⟨stack, .name [] true⟩ := by
    rcases opens with rfl | rfl
    all_goals rfl
  rw [valueText, fieldTexts_eq_map]
  cases fields with
  | nil => exact (leads_punctuation rfl begun).trans (leads_punctuation rfl rfl)
  | cons field fields =>
    rw [List.map_cons, enclosed_cons_append, ← List.map_cons]
    exact ((leads_punctuation rfl begun).trans
      (leads_blanks (isSpace_of_mem_lineBreak blank (depth + 1)))).trans
        (leads_fields blank each distinct)

end

end

/-- A value that its text tells all of: no key comes twice in it, it holds no floats, and the
reader takes its integers. -/
structure IsLegible (bound : Option Nat) (value : Value) : Prop where
  keyed : value.isWellKeyed = true
  floatless : ∀ scalar ∈ value.scalars, scalar.isFloat = false
  small : ∀ scalar ∈ value.scalars, isTooLarge bound scalar = false

theorem isLegible_list_iff {bound : Option Nat} {items : List Value} :
    IsLegible bound (.list items) ↔ ∀ item ∈ items, IsLegible bound item := by
  constructor
  · rintro ⟨keyed, floatless, small⟩ item member
    rw [Value.scalars_list, List.forall_mem_flatMap] at floatless small
    exact ⟨Value.isWellKeyed_list_iff.mp keyed item member, floatless item member,
      small item member⟩
  · intro each
    refine ⟨Value.isWellKeyed_list_iff.mpr fun item member => (each item member).keyed, ?_, ?_⟩
    all_goals rw [Value.scalars_list, List.forall_mem_flatMap]
    · exact fun item member => (each item member).floatless
    · exact fun item member => (each item member).small

theorem isLegible_object_iff {bound : Option Nat} {fields : Entries Value} :
    IsLegible bound (.object fields) ↔
      fields.keys.Nodup ∧ ∀ field ∈ fields, IsLegible bound field.2 := by
  constructor
  · rintro ⟨keyed, floatless, small⟩
    rw [Value.scalars_object, List.forall_mem_flatMap] at floatless small
    obtain ⟨distinct, keyed⟩ := Value.isWellKeyed_object_iff.mp keyed
    exact ⟨distinct, fun field member =>
      ⟨keyed field member, floatless field member, small field member⟩⟩
  · rintro ⟨distinct, each⟩
    refine ⟨Value.isWellKeyed_object_iff.mpr
      ⟨distinct, fun field member => (each field member).keyed⟩, ?_, ?_⟩
    all_goals rw [Value.scalars_object, List.forall_mem_flatMap]
    · exact fun field member => (each field member).floatless
    · exact fun field member => (each field member).small

theorem reads_value {bound : Option Nat} {indent : Indent} (blank : indent.IsBlank) {value : Value}
    (h : IsLegible bound value) : Reads bound indent value := by
  induction value using Value.induction with
  | null => exact reads_word rfl rfl fun rest closed => by rw [valueText]; rfl
  | bool b => exact reads_bool b
  | int n => exact reads_int (h.small _ (List.mem_singleton_self _))
  | float x => exact absurd (h.floatless _ (List.mem_singleton_self _)) (by simp [Value.isFloat])
  | str s => exact reads_str s
  | list items ih =>
    exact reads_list blank fun item member => ih item member (isLegible_list_iff.mp h item member)
  | object fields ih =>
    obtain ⟨distinct, each⟩ := isLegible_object_iff.mp h
    exact reads_object blank distinct fun field member => ih field member (each field member)

theorem head?_enclosed (indent : Indent) (depth : Nat) (start stop : Char)
    (parts : List (List Char)) : (enclosed indent depth start stop parts).head? = some start := by
  unfold enclosed
  split
  all_goals rfl

/-- A printed text has no byte order mark. -/
private theorem head?_valueText_ne (v : Value) (indent : Indent) (depth : Nat) :
    (valueText indent depth v).head? ≠ some '\ufeff' := by
  cases word : lead? v with
  | none =>
    intro mark
    have bare := isBare_of_mem_valueText word indent depth _ (List.mem_of_mem_head? mark)
    contradiction
  | some start =>
    cases v with
    | str s =>
      rw [valueText]
      exact fun mark => absurd (Option.some.inj mark) (by decide)
    | list items =>
      rw [valueText, head?_enclosed]
      decide
    | object fields =>
      rw [valueText, head?_enclosed]
      decide
    | _ => contradiction

/-- What is printed is read as what it was. -/
theorem parseWithin_text {bound : Option Nat} {indent : Indent} (blank : indent.IsBlank)
    {value : Value} (h : IsLegible bound value) :
    parseWithin bound (text indent value).toList = .ok value := by
  have closed : IsClosed [] := fun c member => absurd member (by simp)
  have reads : Leads bound ⟨[], .value⟩ (valueText indent 0 value ++ [])
      ⟨[], .afterValue value⟩ [] :=
    reads_value blank h 0 (Or.inl rfl) closed
  rw [List.append_nil] at reads
  obtain ⟨line, reads⟩ := reads 1
  have ends : readFrom bound line ⟨[], .afterValue value⟩ [] = .ok value := by
    rw [readFrom, lexemes]
    rfl
  rw [text, String.toList_ofList, parseWithin, if_neg (head?_valueText_ne value indent 0)]
  exact reads.trans ends

private theorem notMem_escaped (c : Char) : '\r' ∉ escaped c := by
  fun_cases escaped c with
  | case1 mark => rcases mark with rfl | rfl <;> decide
  | case2 | case3 | case4 | case5 | case6 => decide
  | case7 _ _ _ _ _ _ control =>
    have plain : ∀ n < 32, '\r' ∉ ['\\', 'u', '0', '0', hexDigit (n / 16), hexDigit (n % 16)] := by
      decide
    exact plain c.toNat control
  | case8 _ _ other _ _ _ _ => exact fun member => other (List.mem_singleton.mp member).symm

theorem notMem_stringText (s : String) : '\r' ∉ stringText s := by
  simp [stringText, notMem_escaped]

private theorem notMem_intercalate {c : Char} {gap : List Char} (clear : c ∉ gap)
    {parts : List (List Char)}
    (each : ∀ part ∈ parts, c ∉ part) : c ∉ List.intercalate gap parts := by
  induction parts with
  | nil => exact List.not_mem_nil
  | cons part others ih =>
    obtain ⟨here, later⟩ := List.forall_mem_cons.mp each
    cases others with
    | nil => rwa [List.intercalate_singleton]
    | cons next more =>
      rw [List.intercalate_cons_cons]
      simp [clear, here, ih later]

theorem notMem_lineBreak (n : Int) (depth : Nat) : '\r' ∉ lineBreak (columns n) depth := by
  simp [lineBreak, columns]

theorem notMem_enclosed (n : Int) (depth : Nat) {start stop : Char} (opens : start ≠ '\r')
    (closes : stop ≠ '\r') {parts : List (List Char)} (each : ∀ part ∈ parts, '\r' ∉ part) :
    '\r' ∉ enclosed (columns n) depth start stop parts := by
  have gap : '\r' ∉ separator (columns n) (depth + 1) :=
    List.not_mem_cons_of_ne_of_not_mem (by decide) (notMem_lineBreak n (depth + 1))
  unfold enclosed
  split
  · simp [opens.symm, closes.symm]
  · simp [opens.symm, closes.symm, notMem_lineBreak, notMem_intercalate gap each]

/-- What would be read as another line break is escaped. -/
theorem notMem_valueText (n : Int) (depth : Nat) (v : Value) :
    '\r' ∉ valueText (columns n) depth v := by
  induction v using Value.induction generalizing depth with
  | str s =>
    rw [valueText]
    exact notMem_stringText s
  | list items ih =>
    rw [valueText, itemTexts_eq_map]
    refine notMem_enclosed n depth (by decide) (by decide) ?_
    exact List.forall_mem_map.mpr fun item member => ih item member (depth + 1)
  | object fields ih =>
    rw [valueText, fieldTexts_eq_map]
    refine notMem_enclosed n depth (by decide) (by decide) (List.forall_mem_map.mpr ?_)
    intro field member
    simp [fieldText, notMem_stringText, ih field member]
  | null | bool | int | float =>
    intro member
    have bare := isBare_of_mem_valueText rfl (columns n) depth _ member
    contradiction

end Json

namespace Text

theorem withLineFeeds_eq_self {text : List Char} (clear : '\r' ∉ text) :
    withLineFeeds text = text := by
  fun_induction withLineFeeds text with
  | case1 => rfl
  | case2 | case3 => exact absurd List.mem_cons_self clear
  | case4 c rest _ _ ih => rw [ih fun member => clear (List.mem_cons_of_mem c member)]

end Text

/-- A file that holds what was printed is loaded as what it was. -/
theorem TokenFile.load_text {files : Files} {path : String} {fields : Entries Value}
    (h : Json.IsLegible (some Numeral.bound) (.object fields)) (n : Int)
    (bytes : files.read (Files.normal path) =
      .ok (Json.text (Json.columns n) (.object fields)).toUTF8) :
    load files path = .ok (.object fields) := by
  have clear : '\r' ∉ (Json.text (Json.columns n) (.object fields)).toList := by
    rw [Json.text, String.toList_ofList]
    exact Json.notMem_valueText n 0 _
  refine load_of_text bytes ?_
  rw [Text.withLineFeeds_eq_self clear, Json.parse,
    Json.parseWithin_text (Json.isBlank_columns n) h]

end DesignTokens
