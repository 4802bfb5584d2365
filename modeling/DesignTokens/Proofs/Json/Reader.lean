import DesignTokens.Json.Reader
import DesignTokens.Proofs.Files
import DesignTokens.Proofs.Value.WellKeyed
import DesignTokens.TokenFile

/-! What is read from JSON text is well-keyed, whatever keys the text repeats. So every
tree that comes from a file is. -/
namespace DesignTokens

namespace Json

def Token.IsWellKeyed : Token → Prop
  | .scalar v => v.isWellKeyed = true
  | _ => True

theorem isWellKeyed_of_scanWord {s rest : List Char} {v : Value}
    (found : scanWord s = some (v, rest)) : v.isWellKeyed = true := by
  obtain ⟨word, member, scanned⟩ := List.exists_of_findSome?_eq_some found
  obtain ⟨_, -, same⟩ := Option.map_eq_some_iff.mp scanned
  obtain ⟨rfl, -⟩ := Prod.mk.inj same
  have plain : ∀ word ∈ words, word.2.isWellKeyed = true := by decide
  exact plain word member

private theorem isWellKeyed_of_scanNumber {s rest : List Char} {v : Value}
    (found : scanNumber s = some (v, rest)) : v.isWellKeyed = true := by
  simp only [scanNumber, Option.bind_eq_bind] at found
  obtain ⟨⟨whole, tail⟩, -, found⟩ := Option.bind_eq_some_iff.mp found
  dsimp only at found
  split at found
  all_goals
    obtain ⟨rfl, -⟩ := Prod.mk.inj (Option.some.inj found)
    rfl

private theorem isWellKeyed_of_punctuation? {c : Char} {token : Token}
    (found : punctuation? c = some token) : token.IsWellKeyed := by
  unfold punctuation? at found
  split at found
  all_goals cases found
  all_goals exact trivial

theorem isWellKeyed_of_lexemes (line : Nat) (s : List Char) :
    ∀ lexeme ∈ (lexemes line s).1, lexeme.token.IsWellKeyed := by
  fun_induction lexemes line s with
  | case1 => exact fun _ member => absurd member List.not_mem_nil
  | case2 line c rest space ih => exact ih
  | case3 line c rest noSpace followedBy token found ih =>
    exact List.forall_mem_cons.mpr ⟨isWellKeyed_of_punctuation? found, ih⟩
  | case4 line rest followedBy t more scanned shorter noSpace noPunctuation ih =>
    exact List.forall_mem_cons.mpr ⟨trivial, ih⟩
  | case5 line rest fault broken noSpace noPunctuation =>
    exact List.forall_mem_singleton.mpr trivial
  | case6 line c rest noSpace followedBy noPunctuation noQuote v more scanned shorter ih =>
    exact List.forall_mem_cons.mpr ⟨isWellKeyed_of_scanWord scanned, ih⟩
  | case7 line c rest noSpace followedBy noPunctuation noQuote noWord v more scanned shorter ih =>
    exact List.forall_mem_cons.mpr ⟨isWellKeyed_of_scanNumber scanned, ih⟩
  | case8 line c rest noSpace noPunctuation noQuote noWord noNumber =>
    exact List.forall_mem_singleton.mpr trivial

def Open.IsWellKeyed : Open → Prop
  | .list items => ∀ item ∈ items, item.isWellKeyed = true
  | .object fields _ => (Value.object fields).isWellKeyed = true

def Need.IsWellKeyed : Need → Prop
  | .value | .firstItem => True
  | .name fields _ | .colon fields _ => (Value.object fields).isWellKeyed = true
  | .afterValue v => v.isWellKeyed = true

structure State.IsWellKeyed (state : State) : Prop where
  stack : ∀ opened ∈ state.stack, opened.IsWellKeyed
  need : state.need.IsWellKeyed

/-- What ends or separates a value that is complete. -/
theorem isWellKeyed_take_afterValue {bound : Option Nat} {stack : List Open} {v : Value}
    {next : State} {token : Token} (h : State.IsWellKeyed ⟨stack, .afterValue v⟩)
    (taken : State.take bound ⟨stack, .afterValue v⟩ token = .ok next) : next.IsWellKeyed := by
  obtain ⟨opened, complete⟩ := h
  unfold State.take at taken
  dsimp only at taken
  split at taken
  · contradiction
  · next items outer =>
    obtain rfl := Except.ok.inj taken
    obtain ⟨innermost, others⟩ := List.forall_mem_cons.mp opened
    have longer : Open.IsWellKeyed (.list (v :: items)) :=
      List.forall_mem_cons.mpr ⟨complete, innermost⟩
    exact ⟨List.forall_mem_cons.mpr ⟨longer, others⟩, trivial⟩
  · next items outer =>
    obtain rfl := Except.ok.inj taken
    obtain ⟨innermost, others⟩ := List.forall_mem_cons.mp opened
    have all : ∀ item ∈ v :: items, item.isWellKeyed = true :=
      List.forall_mem_cons.mpr ⟨complete, innermost⟩
    refine ⟨others, Value.isWellKeyed_list_iff.mpr ?_⟩
    intro item member
    exact all item (List.mem_reverse.mp member)
  · obtain rfl := Except.ok.inj taken
    obtain ⟨innermost, others⟩ := List.forall_mem_cons.mp opened
    exact ⟨others, Value.isWellKeyed_put _ innermost complete⟩
  · obtain rfl := Except.ok.inj taken
    obtain ⟨innermost, others⟩ := List.forall_mem_cons.mp opened
    exact ⟨others, Value.isWellKeyed_put _ innermost complete⟩
  · contradiction

/-- What begins a value. -/
theorem isWellKeyed_take_value {bound : Option Nat} {stack : List Open} {next : State}
    {token : Token} (opened : ∀ o ∈ stack, o.IsWellKeyed) (scanned : token.IsWellKeyed)
    (taken : State.take bound ⟨stack, .value⟩ token = .ok next) : next.IsWellKeyed := by
  cases token with
  | string s =>
    obtain rfl := Except.ok.inj taken
    exact ⟨opened, rfl⟩
  | scalar v =>
    unfold State.take at taken
    dsimp only at taken
    split at taken
    · contradiction
    · obtain rfl := Except.ok.inj taken
      exact ⟨opened, scanned⟩
  | beginList =>
    obtain rfl := Except.ok.inj taken
    have empty : Open.IsWellKeyed (.list []) := fun _ member => absurd member List.not_mem_nil
    exact ⟨List.forall_mem_cons.mpr ⟨empty, opened⟩, trivial⟩
  | beginObject =>
    obtain rfl := Except.ok.inj taken
    exact ⟨opened, rfl⟩
  | _ => contradiction

/-- Behind an opening bracket a list may end at once; anything else begins its first
item. -/
theorem take_firstItem {bound : Option Nat} {stack : List Open} {token : Token}
    (more : token ≠ .endList) :
    State.take bound ⟨stack, .firstItem⟩ token = State.take bound ⟨stack, .value⟩ token := by
  cases token with
  | endList => contradiction
  | _ => rfl

private theorem isWellKeyed_take {bound : Option Nat} {state next : State} {token : Token}
    (h : state.IsWellKeyed) (scanned : token.IsWellKeyed)
    (taken : state.take bound token = .ok next) : next.IsWellKeyed := by
  obtain ⟨stack, need⟩ := state
  obtain ⟨opened, needed⟩ := h
  cases need with
  | value => exact isWellKeyed_take_value opened scanned taken
  | firstItem =>
    cases token with
    | endList =>
      obtain rfl := Except.ok.inj taken
      exact ⟨fun o member => opened o (List.mem_of_mem_drop member), rfl⟩
    | _ =>
      rw [take_firstItem (by simp)] at taken
      exact isWellKeyed_take_value opened scanned taken
  | name fields first =>
    cases token with
    | string s =>
      obtain rfl := Except.ok.inj taken
      exact ⟨opened, needed⟩
    | endObject =>
      cases first with
      | true =>
        obtain rfl := Except.ok.inj taken
        exact ⟨opened, needed⟩
      | false => contradiction
    | _ => contradiction
  | colon fields name =>
    cases token with
    | colon =>
      obtain rfl := Except.ok.inj taken
      exact ⟨List.forall_mem_cons.mpr ⟨needed, opened⟩, trivial⟩
    | _ => contradiction
  | afterValue v => exact isWellKeyed_take_afterValue ⟨opened, needed⟩ taken

private theorem isWellKeyed_finish {state : State} {value : Value} (h : state.IsWellKeyed)
    (finished : state.finish = .ok value) : value.isWellKeyed = true := by
  unfold State.finish at finished
  split at finished
  · obtain rfl := Except.ok.inj finished
    exact h.need
  all_goals contradiction

theorem isWellKeyed_of_read {bound : Option Nat} {lastLine : Nat} {lexemes : List Lexeme}
    {state : State} {value : Value} (h : state.IsWellKeyed)
    (scanned : ∀ lexeme ∈ lexemes, lexeme.token.IsWellKeyed)
    (result : read bound lastLine state lexemes = .ok value) : value.isWellKeyed = true := by
  induction lexemes generalizing state with
  | nil =>
    unfold read at result
    cases finished : state.finish with
    | error fault => rw [finished] at result; contradiction
    | ok other =>
      rw [finished] at result
      obtain rfl := Except.ok.inj result
      exact isWellKeyed_finish h finished
  | cons lexeme rest ih =>
    obtain ⟨first, others⟩ := List.forall_mem_cons.mp scanned
    unfold read at result
    split at result
    · next state taken => exact ih (isWellKeyed_take h first taken) others result
    · contradiction

theorem isWellKeyed_of_parseWithin {bound : Option Nat} {text : List Char} {value : Value}
    (parsed : parseWithin bound text = .ok value) : value.isWellKeyed = true := by
  unfold parseWithin at parsed
  split at parsed
  · contradiction
  · have start : State.IsWellKeyed ⟨[], .value⟩ :=
      ⟨fun _ member => absurd member List.not_mem_nil, trivial⟩
    exact isWellKeyed_of_read start (isWellKeyed_of_lexemes 1 text) parsed

end Json

namespace TokenFile

theorem isWellKeyed_of_contentOf {bytes : ByteArray} {tree : Value}
    (content : contentOf bytes = .ok tree) : tree.isWellKeyed = true := by
  unfold contentOf at content
  cases decoded : Text.decode? bytes with
  | none => rw [decoded] at content; contradiction
  | some text =>
    rw [decoded] at content
    dsimp only at content
    split at content
    · next fields parsed =>
      obtain rfl := Except.ok.inj content
      exact Json.isWellKeyed_of_parseWithin parsed
    · contradiction
    · contradiction

theorem load_of_text {files : Files} {path text : String} {fields : Entries Value}
    (bytes : files.read (Files.normal path) = .ok text.toUTF8)
    (parsed : Json.parse (Text.withLineFeeds text.toList) =
      .ok (.object fields)) : load files path = .ok (.object fields) := by
  have content : contentOf text.toUTF8 = .ok (.object fields) := by
    rw [contentOf, Text.decode?_toUTF8]
    dsimp only
    rw [parsed]
    rfl
  rw [load, bytes]
  exact congrArg (Except.mapError _) content

/-- Every tree that is loaded is well-keyed, as resolution takes its trees to be. -/
theorem isWellKeyed_of_load {files : Files} {path : String} {tree : Value}
    (loaded : load files path = .ok tree) : tree.isWellKeyed = true := by
  unfold load at loaded
  cases bytes : (files.read (Files.normal path)).mapError readCause with
  | error cause => rw [bytes] at loaded; contradiction
  | ok bytes' =>
    rw [bytes] at loaded
    cases content : contentOf bytes' with
    | error cause => simp only [Except.bind, content] at loaded; contradiction
    | ok other =>
      simp only [Except.bind, content] at loaded
      obtain rfl := Except.ok.inj loaded
      exact isWellKeyed_of_contentOf content

end TokenFile

end DesignTokens
