import DesignTokens.Files
import DesignTokens.Text.Decoding
import Mathlib.Data.List.Basic

/-! What reading a file can come to. A path cannot be read for its characters alone exactly if
one of them is null, and the shortest spelling of a path keeps that character. Bytes are text
exactly if they are what some text is in UTF-8. -/
namespace DesignTokens

private theorem flatten_splitAtSlashes (s : List Char) :
    (splitAtSlashes s).flatten = s.filter (· ≠ '/') := by
  fun_induction splitAtSlashes s with
  | case1 => rfl
  | case2 rest ih => simp [ih]
  | case3 c rest other none ih =>
    rw [List.filter_cons_of_pos (by simpa using other), ← ih, none]
    rfl
  | case4 c rest other first others some ih =>
    rw [List.filter_cons_of_pos (by simpa using other), ← ih, some]
    rfl

section

variable {c : Char} (noSlash : c ≠ '/')

include noSlash

theorem mem_joinPath {names : List String} :
    c ∈ (joinPath names).toList ↔ ∃ name ∈ names, c ∈ name.toList := by
  rw [joinPath, String.toList_intercalate]
  induction names with
  | nil => simp
  | cons name rest ih =>
    cases rest with
    | nil => simp
    | cons next others =>
      rw [List.map_cons, List.map_cons, List.intercalate_cons_cons, ← List.map_cons,
        List.mem_append, List.mem_append, ih]
      simp [noSlash]

namespace Files

variable (noPoint : c ≠ '.')

include noPoint

private theorem mem_steps {path : String} :
    (∃ name ∈ steps path, c ∈ name.toList) ↔ c ∈ path.toList := by
  have kept : c ∈ path.toList ↔ ∃ part ∈ splitAtSlashes path.toList, c ∈ part := by
    rw [← List.mem_flatten, flatten_splitAtSlashes, List.mem_filter]
    simp [noSlash]
  rw [kept, steps]
  constructor
  · rintro ⟨name, member, inside⟩
    obtain ⟨part, split, rfl⟩ := List.mem_map.mp (List.mem_of_mem_filter member)
    exact ⟨part, split, by rwa [String.toList_ofList] at inside⟩
  · rintro ⟨part, split, inside⟩
    have inside' : c ∈ (String.ofList part).toList := by rwa [String.toList_ofList]
    refine ⟨String.ofList part, List.mem_filter.mpr ⟨List.mem_map_of_mem split, ?_⟩, inside'⟩
    rw [decide_eq_true_iff]
    constructor
    all_goals
      intro same
      rw [same] at inside'
      simp [noPoint] at inside'

omit noPoint in
private theorem notMem_rootOf (path : String) : c ∉ (rootOf path).toList := by
  unfold rootOf
  split <;> simp [noSlash]

/-- The shortest spelling of a path keeps all but slashes and points. -/
theorem mem_normal {path : String} : c ∈ (normal path).toList ↔ c ∈ path.toList := by
  have steps := @mem_steps c noSlash noPoint path
  have root := notMem_rootOf noSlash path
  unfold normal
  split
  · next nameless =>
    rw [nameless] at steps
    rw [← steps]
    simp [noPoint]
  · next =>
    rw [String.toList_append, List.mem_append, or_iff_right root, mem_joinPath noSlash, steps]

end Files

end

namespace Files

private theorem walkTo_ne_nullInPath (files : Files) (here : Place) (names : List String) :
    files.walkTo here names ≠ .error .nullInPath := by
  fun_induction walkTo files here names <;> simp_all

theorem follow_eq_nullInPath_iff {files : Files} {path : String} :
    files.follow path = .error .nullInPath ↔ '\x00' ∈ path.toList := by
  unfold follow
  by_cases null : '\x00' ∈ path.toList
  · rw [if_pos (List.contains_iff_mem.mpr null)]
    exact iff_of_true rfl null
  · rw [if_neg (mt List.contains_iff_mem.mp null)]
    refine iff_of_false ?_ null
    have other (e : ReadError) (different : e ≠ .nullInPath) :
        (.error e : Except ReadError Place) ≠ .error .nullInPath :=
      fun same => different (Except.error.inj same)
    dsimp only
    by_cases empty : path = ""
    · rw [if_pos empty]
      exact other .notFound (by decide)
    · rw [if_neg empty]
      by_cases long : longestPath < path.utf8ByteSize
      · rw [if_pos long]
        exact other .nameTooLong (by decide)
      · rw [if_neg long]
        cases walked : files.walkTo [] (names path) with
        | error e => exact fun same => walkTo_ne_nullInPath files [] _ (walked.trans same)
        | ok place =>
          dsimp only [bind, Except.bind]
          split
          · exact other .notADirectory (by decide)
          · exact nofun

theorem read_eq_nullInPath_iff {files : Files} {path : String} :
    files.read path = .error .nullInPath ↔ '\x00' ∈ path.toList := by
  rw [← @follow_eq_nullInPath_iff files, read]
  cases followed : files.follow path with
  | error e => simp only [bind, Except.bind, Except.error.injEq]
  | ok place =>
    refine iff_of_false ?_ nofun
    dsimp only [bind, Except.bind]
    split
    · exact nofun
    · split
      · exact nofun
      · exact nofun

end Files

namespace Text

theorem decode?_toUTF8 (text : String) :
    decode? text.toUTF8 = some (withLineFeeds text.toList) := by
  have back : String.fromUTF8? text.toUTF8 = some text := by
    simp only [String.fromUTF8?, String.toUTF8_eq_toByteArray, dif_pos text.isValidUTF8]
    rfl
  rw [decode?, back]
  rfl

theorem decode?_eq_some_iff {bytes : ByteArray} {s : List Char} :
    decode? bytes = some s ↔
      ∃ text : String, text.toUTF8 = bytes ∧ withLineFeeds text.toList = s := by
  constructor
  · intro decoded
    obtain ⟨text, found, same⟩ := Option.map_eq_some_iff.mp decoded
    rw [String.fromUTF8?] at found
    split at found
    · obtain rfl := Option.some.inj found
      exact ⟨_, rfl, same⟩
    · contradiction
  · rintro ⟨text, rfl, rfl⟩
    exact decode?_toUTF8 text

theorem decode?_eq_none_iff {bytes : ByteArray} :
    decode? bytes = none ↔ ∀ text : String, text.toUTF8 ≠ bytes := by
  rw [Option.eq_none_iff_forall_ne_some]
  constructor
  · intro none text same
    exact none _ (decode?_eq_some_iff.mpr ⟨text, same, rfl⟩)
  · intro noText s decoded
    obtain ⟨text, same, -⟩ := decode?_eq_some_iff.mp decoded
    exact noText text same

end Text

end DesignTokens
