import DesignTokens.Proofs.Fold
import DesignTokens.Proofs.Text.Markup
import DesignTokens.Proofs.Value.Key
import DesignTokens.Report.Screen

/-! What a terminal can show of a report. Names are escaped, so that only where two of them
stand on one line can they make up a tag. -/
namespace DesignTokens

namespace Text.Markup

/-- Text that no bracket and no backslash is part of. -/
def IsPlain (s : List Char) : Prop := ∀ c ∈ s, c ≠ '[' ∧ c ≠ ']' ∧ c ≠ backslash

instance (s : List Char) : Decidable (IsPlain s) :=
  List.decidableBAll (fun c => c ≠ '[' ∧ c ≠ ']' ∧ c ≠ backslash) s

instance (tag : List Char) : Decidable (IsTag tag) :=
  decidable_of_iff (tag? tag = some (tag, []))
    ⟨fun found => (isTag_of_tag? found).1, fun is => by simpa using tag?_append is []⟩

theorem IsPlain.firstBracket?_eq_none {s : List Char} (plain : IsPlain s) :
    firstBracket? s = none :=
  firstBracket?_eq_none_iff.mpr fun c member => ⟨(plain c member).1, (plain c member).2.1⟩

theorem IsPlain.tagsOf_eq_nil {s : List Char} (plain : IsPlain s) : tagsOf s = [] :=
  tagsOf_of_notMem fun member => (plain _ member).1 rfl

theorem IsPlain.endSlashes_eq_zero {s : List Char} (plain : IsPlain s) : endSlashes s = 0 := by
  have none : s.reverse.takeWhile (· = backslash) = [] := by
    rw [List.takeWhile_eq_nil_iff]
    intro some same
    exact (plain _ (List.mem_reverse.mp (List.get_mem _ _))).2.2 (of_decide_eq_true same)
  rw [endSlashes, backslashes, none]
  rfl

theorem IsPlain.append {s t : List Char} (plain : IsPlain s) (others : IsPlain t) :
    IsPlain (s ++ t) := List.forall_mem_append.mpr ⟨plain, others⟩

theorem isPlain_digits (n : Nat) : IsPlain (toString n).toList := by
  intro c member
  have digit : c.isDigit = true :=
    Nat.isDigit_of_mem_toDigits (b := 10) (n := n) (by decide) (by decide)
      (by simpa [toString, Nat.repr] using member)
  refine ⟨?_, ?_, ?_⟩ <;>
  · rintro rfl
    exact absurd digit (by decide)

end Text.Markup

open Text.Markup

namespace Status

private theorem painted_eq (color text : String) :
    painted color text = ('[' :: (color.toList ++ [']'])) ++ (text.toList ++ "[/]".toList) := by
  simp [painted, toString]

private theorem isTag_close : IsTag "[/]".toList := by decide

/-- Text in a color opens a tag and, unless a backslash takes its effect, closes it. -/
theorem tagsOf_painted {color text : String} (is : IsTag ('[' :: (color.toList ++ [']'])))
    (silent : tagsOf text.toList = []) (t : List Char) :
    tagsOf (painted color text ++ t) =
      ('[' :: (color.toList ++ [']'])) ::
        ((if endSlashes text.toList % 2 = 0 then ["[/]".toList] else []) ++ tagsOf t) := by
  have opened := tagsOf_tag 0 is (text.toList ++ ("[/]".toList ++ t))
  rw [painted_eq, List.append_assoc, List.append_assoc]
  refine opened.trans ?_
  rw [tagsOf_append (.inr (by simp [firstBracket?])), silent, tagsOf_tag _ isTag_close]
  rfl

theorem tagsOf_painted_plain {color text : String} (is : IsTag ('[' :: (color.toList ++ [']'])))
    (plain : IsPlain text.toList) (t : List Char) :
    tagsOf (painted color text ++ t) =
      ('[' :: (color.toList ++ [']'])) :: "[/]".toList :: tagsOf t := by
  rw [tagsOf_painted is plain.tagsOf_eq_nil, plain.endSlashes_eq_zero]
  rfl

theorem isTag_color (status : Status) : IsTag ('[' :: (status.color.toList ++ [']'])) := by
  cases status <;> decide

theorem isPlain_name (status : Status) : IsPlain status.name.toList := by
  cases status <;> decide

theorem tagsOf_markup (status : Status) (t : List Char) :
    tagsOf (status.markup ++ t) =
      ('[' :: (status.color.toList ++ [']'])) :: "[/]".toList :: tagsOf t :=
  tagsOf_painted_plain status.isTag_color status.isPlain_name t

end Status

namespace Report

theorem isSome_shown?_of_silent {s : List Char} (silent : tagsOf s = []) : (shown? s).isSome := by
  rw [isSome_shown?, silent]
  rfl

theorem isSome_shown?_escaped (s : String) : (shown? (escaped s)).isSome :=
  isSome_shown?_of_silent (tagsOf_escape _)

theorem isSome_shown?_status (status : Status) : (shown? status.markup).isSome := by
  have tags := status.tagsOf_markup []
  rw [List.append_nil] at tags
  rw [isSome_shown?, tags]
  cases status <;> decide

/-- The line that shows one resolution. -/
theorem isSome_shown?_resolution (outcome : Resolution) (key : String) :
    (shown? (Status.painted "cyan" (String.ofList (escaped outcome.path)) ++ [' '] ++
      outcome.status.markup ++ [' '] ++ escaped key)).isSome := by
  have cyan : IsTag ('[' :: ("cyan".toList ++ [']'])) := by decide
  have silent : tagsOf (String.ofList (escaped outcome.path)).toList = [] := by
    rw [String.toList_ofList]
    exact tagsOf_escape _
  have shown : tagsOf (escaped key) = [] := tagsOf_escape _
  have blank : IsPlain [' '] := by decide
  rw [isSome_shown?, List.append_assoc, List.append_assoc, List.append_assoc,
    Status.tagsOf_painted cyan silent, tagsOf_plain_append blank.firstBracket?_eq_none
      blank.endSlashes_eq_zero, Status.tagsOf_markup, tagsOf_plain_append
        blank.firstBracket?_eq_none blank.endSlashes_eq_zero, shown]
  cases outcome.status <;> split <;> decide

theorem tagsOf_indented (s : List Char) {indent : List Char} (plain : IsPlain indent) :
    tagsOf (indent ++ s) = tagsOf s :=
  tagsOf_plain_append plain.firstBracket?_eq_none plain.endSlashes_eq_zero s

/-- A reason that closes no bracket closes none of the path before it. -/
theorem tagsOf_skipped (path : String) {reason : String} (closes : ']' ∉ reason.toList) :
    tagsOf (escaped path ++ ": ".toList ++ escaped reason) = [] := by
  have first : firstBracket? (": ".toList ++ escaped reason) ≠ some ']' := by
    rw [firstBracket?_append, escaped, firstBracket?_escape]
    intro found
    exact closes (List.mem_of_find?_eq_some found)
  have silent : tagsOf (" ".toList ++ escaped reason) = [] := by
    rw [tagsOf_indented _ (by decide)]
    exact tagsOf_escape _
  have colon : tag? (':' :: (" ".toList ++ escaped reason)) = none := tag?_cons_of_ne (by decide) _
  have different : ':' ≠ backslash := by decide
  have whole : ": ".toList ++ escaped reason = ':' :: (" ".toList ++ escaped reason) := by simp
  rw [List.append_assoc, tagsOf_append (.inr first), whole, tagsOf_pass _ different colon, silent]
  exact congrArg (· ++ []) (tagsOf_escape path.toList)

end Report

theorem isSome_mapM {α β : Type} {f : α → Option β} {items : List α} :
    (items.mapM f).isSome ↔ ∀ item ∈ items, (f item).isSome := by
  induction items with
  | nil => simp
  | cons item rest ih =>
    rw [List.mapM_cons, List.forall_mem_cons, ← ih]
    cases f item with
    | none => simp
    | some a => cases rest.mapM f <;> simp

namespace Screen

/-- Whether there is no broken markup in a block. -/
def Shows (block : Block) : Prop :=
  match block with
  | .line markup => (shown? markup).isSome
  | .text _ => True
  | .table table => ∀ row ∈ table.rows, ∀ markup ∈ row, (shown? markup).isSome

private theorem isSome_tableLines? {table : Table} :
    (tableLines? table).isSome ↔ Shows (.table table) := by
  have rows : (table.rows.mapM fun row : List (List Char) => row.mapM cell?).isSome ↔
      Shows (.table table) := by
    simp only [isSome_mapM, cell?, Option.isSome_map, Shows]
  rw [tableLines?, ← rows]
  cases table.rows.mapM fun row : List (List Char) => row.mapM cell? <;> simp

private theorem isSome_blockLines? {colored : Bool} {block : Block} :
    (blockLines? colored block).isSome ↔ Shows block := by
  cases block with
  | line markup =>
    rw [blockLines?, Shows]
    cases shown? markup <;> simp
  | text text => simp [blockLines?, Shows]
  | table table => exact isSome_tableLines?

theorem isSome_text? {colored : Bool} {blocks : List Block} :
    (text? colored blocks).isSome ↔ ∀ block ∈ blocks, Shows block := by
  have lines : (blocks.mapM (blockLines? colored)).isSome ↔ ∀ block ∈ blocks, Shows block := by
    simp only [isSome_mapM, isSome_blockLines?]
  rw [text?, ← lines]
  cases blocks.mapM (blockLines? colored) <;> simp

end Screen

namespace Report

open Screen

theorem shows_silent {s : List Char} (silent : tagsOf s = []) : Shows (.line s) :=
  isSome_shown?_of_silent silent

theorem shows_summary (report : Report) : Shows (.line report.summaryMarkup) := by
  have counted (status : Status) :
      IsPlain (s!"{report.countOf status} {status.name}").toList := by
    have blank : IsPlain " ".toList := by decide
    simpa [toString] using ((isPlain_digits (report.countOf status)).append blank).append
      status.isPlain_name
  have cyan : IsTag ('[' :: ("bold cyan".toList ++ [']'])) := by decide
  have painted (status : Status) (t : List Char) := Status.tagsOf_painted_plain status.isTag_color
    (counted status) t
  have ends := painted .cyclic []
  rw [List.append_nil] at ends
  rw [Shows, isSome_shown?, summaryMarkup]
  simp only [List.append_assoc]
  rw [Status.tagsOf_painted_plain cyan (isPlain_digits _), tagsOf_indented _ (by decide), painted,
    tagsOf_indented _ (by decide), painted, tagsOf_indented _ (by decide), ends]
  decide

theorem shows_findingList {color heading : String} {items : List (List Char)}
    (head : (shown? ('\n' :: Status.painted ("bold " ++ color) heading)).isSome)
    (silent : ∀ item ∈ items, tagsOf item = []) :
    ∀ block ∈ findingList color heading items, Shows block := by
  rw [findingList]
  split
  · exact fun block none => absurd none List.not_mem_nil
  · refine List.forall_mem_cons.mpr ⟨head, List.forall_mem_map.mpr fun item member => ?_⟩
    refine shows_silent ?_
    rw [tagsOf_indented _ (by decide)]
    exact silent item member

theorem shows_findingTable {table : Table} (shows : Shows (.table table)) :
    ∀ block ∈ findingTable table, Shows block := by
  rw [findingTable]
  split
  · exact fun block none => absurd none List.not_mem_nil
  · exact List.forall_mem_singleton.mpr shows

/-- The rows of results that can be written. -/
def rowsOf (outcomes : List Resolution) : List (List (List Char)) :=
  outcomes.map fun outcome =>
    [escaped outcome.path, outcome.status.markup, escaped outcome.value.keyText]

theorem mapM_outcomeRow_eq_ok_iff {room : Nat} {outcomes : List Resolution}
    {rows : List (List (List Char))} :
    outcomes.mapM (outcomeRow room) = .ok rows ↔
      (∀ outcome ∈ outcomes, outcome.value.IsWritable room) ∧ rowsOf outcomes = rows := by
  refine mapM_eq_ok_iff fun outcome row => ?_
  exact Value.map_key_eq_ok_iff

theorem shows_outcomes (outcomes : List Resolution) (title : String) (header : List String) :
    Shows (.table ⟨title, header, rowsOf outcomes⟩) := by
  refine List.forall_mem_map.mpr fun outcome _ => ?_
  simp only [List.forall_mem_cons]
  exact ⟨isSome_shown?_escaped _, isSome_shown?_status _, isSome_shown?_escaped _, nofun⟩

theorem shows_duplicates (groups : List DuplicateGroup) :
    Shows (.table (DuplicateGroup.table groups)) := by
  refine List.forall_mem_map.mpr fun group _ => ?_
  simp only [DuplicateGroup.row, List.forall_mem_cons]
  exact ⟨isSome_shown?_escaped _, isSome_shown?_of_silent (isPlain_digits _).tagsOf_eq_nil,
    isSome_shown?_escaped _, nofun⟩

/-- A report can be shown whose references are all to tokens and whose values can be written, as
long as no reason that it gives closes a bracket. -/
theorem exists_screenText? {report : Report} {room : Nat} {onlyUnresolved : Bool}
    (dangling : report.dangling = [])
    (reasons : ∀ node ∈ report.skipped, ']' ∉ node.reason.toList)
    (writes : ∀ outcome ∈ report.listed onlyUnresolved, outcome.value.IsWritable room) :
    ∃ text, report.screenText? room onlyUnresolved = .ok (some text) := by
  have rows := mapM_outcomeRow_eq_ok_iff.mpr ⟨writes, rfl⟩
  rw [screenText?, blocks, rows]
  refine Option.isSome_iff_exists.mp ?_ |>.imp fun text shown => congrArg Except.ok shown
  refine isSome_text?.mpr ?_
  simp only [List.forall_mem_append]
  refine ⟨⟨⟨⟨⟨?_, shows_findingTable (shows_outcomes _ _ _)⟩, ?_⟩, ?_⟩, ?_⟩, ?_⟩
  · have heading : tagsOf "Token Resolution".toList = [] := by decide
    exact List.forall_mem_cons.mpr ⟨shows_silent heading,
      List.forall_mem_singleton.mpr (shows_summary report)⟩
  · refine shows_findingList (by decide) ?_
    exact List.forall_mem_map.mpr fun warning _ => tagsOf_escape _
  · rw [dangling]
    exact fun block none => absurd none List.not_mem_nil
  · exact shows_findingTable (shows_duplicates _)
  · refine shows_findingList (by decide) ?_
    exact List.forall_mem_map.mpr fun node known => tagsOf_skipped _ (reasons node known)

/-- In a report that is shown every node that was skipped is. -/
theorem shows_skipped_of_screenText? {report : Report} {room : Nat} {onlyUnresolved : Bool}
    {text : String}
    (shown : report.screenText? room onlyUnresolved = .ok (some text)) {node : SkippedNode}
    (listed : node ∈ report.skipped) :
    Shows (.line ("  - ".toList ++
      (escaped (shownPath node.path) ++ ": ".toList ++ escaped node.reason))) := by
  rw [screenText?, blocks] at shown
  cases rows : (report.listed onlyUnresolved).mapM (outcomeRow room) with
  | error fault => rw [rows] at shown; cases shown
  | ok rows' =>
    rw [rows] at shown
    have each := isSome_text?.mp (Option.isSome_of_eq_some (Except.ok.inj shown))
    refine (List.forall_mem_append.mp each).2 _ ?_
    rw [findingList, if_neg (List.map_eq_nil_iff.not.mpr (List.ne_nil_of_mem listed))]
    exact List.mem_cons_of_mem _ (List.mem_map_of_mem (List.mem_map_of_mem listed))

end Report

end DesignTokens
