import DesignTokens.Reference
import Mathlib.Data.List.TakeWhile

/-! Which texts are references: a path in braces, behind whose closing brace one line break may
stand. A path that is put into braces is read back from them. -/
namespace DesignTokens

namespace Reference

/-- What may stand between the braces. -/
def IsPath (path : String) : Prop := path ≠ "" ∧ ∀ c ∈ path.toList, isBrace c = false

instance (path : String) : Decidable (IsPath path) :=
  decidable_of_iff (path ≠ "" ∧ path.toList.all (!isBrace ·) = true) (by simp [IsPath])

def braced (path : String) : String := String.ofList ('{' :: path.toList ++ ['}'])

/-- The grammar of references. -/
inductive Denotes : Value → Reference → Prop
  | braced {path : String} (h : IsPath path) : Denotes (.str (braced path)) (ofPath path)
  | broken {path : String} (h : IsPath path) :
    Denotes (.str (braced path ++ "\n")) ⟨path, braced path ++ "\n"⟩

section

variable {path more : List Char} (free : ∀ c ∈ path, isBrace c = false)

include free

private theorem takeWhile_braced : (path ++ '}' :: more).takeWhile (!isBrace ·) = path := by
  rw [List.takeWhile_append_of_pos fun c member => by rw [free c member, Bool.not_false]]
  exact List.append_nil path

private theorem dropWhile_braced : (path ++ '}' :: more).dropWhile (!isBrace ·) = '}' :: more := by
  rw [List.dropWhile_append_of_pos fun c member => by rw [free c member, Bool.not_false]]
  rfl

end

theorem bracedPath?_eq_some_iff {text path : List Char} :
    bracedPath? text = some path ↔ (path ≠ [] ∧ ∀ c ∈ path, isBrace c = false) ∧
      (text = '{' :: path ++ ['}'] ∨ text = '{' :: path ++ ['}', '\n']) := by
  constructor
  · intro found
    unfold bracedPath? at found
    split at found
    · next rest =>
      dsimp only at found
      split at found
      · next closed =>
        obtain rfl := Option.some.inj found
        have whole := List.takeWhile_append_dropWhile (p := (!isBrace ·)) (l := rest)
        have free : ∀ c ∈ rest.takeWhile (!isBrace ·), isBrace c = false :=
          fun c member => by simpa using List.mem_takeWhile_imp member
        refine ⟨⟨closed.1, free⟩, closed.2.imp ?_ ?_⟩
        all_goals
          intro tail
          rw [← tail, List.cons_append, whole]
      · contradiction
    · contradiction
  · rintro ⟨⟨some, free⟩, rfl | rfl⟩
    all_goals
      rw [List.cons_append, bracedPath?, takeWhile_braced free, dropWhile_braced free]
      simp [some]

theorem toList_braced (path : String) : (braced path).toList = '{' :: path.toList ++ ['}'] :=
  String.toList_ofList

theorem toList_braced_append (path : String) :
    (braced path ++ "\n").toList = '{' :: path.toList ++ ['}', '\n'] := by
  rw [String.toList_append, toList_braced, List.append_assoc]
  rfl

theorem isPath_iff {path : String} :
    IsPath path ↔ path.toList ≠ [] ∧ ∀ c ∈ path.toList, isBrace c = false := by
  rw [IsPath, Ne, Ne, String.toList_eq_nil_iff]

theorem parse?_eq_some_iff {text : String} {reference : Reference} :
    parse? text = some reference ↔ Denotes (.str text) reference := by
  rw [parse?, Option.map_eq_some_iff]
  constructor
  · rintro ⟨path, found, rfl⟩
    obtain ⟨isPath, written⟩ := bracedPath?_eq_some_iff.mp found
    rw [← String.toList_ofList (l := path)] at isPath written
    rcases written with written | written
    · rw [← toList_braced, String.toList_inj] at written
      subst written
      exact .braced (isPath_iff.mpr isPath)
    · rw [← toList_braced_append, String.toList_inj] at written
      subst written
      exact .broken (isPath_iff.mpr isPath)
  · intro denoted
    generalize whole : Value.str text = v at denoted
    cases denoted with
    | @braced path h =>
      obtain rfl := Value.str.inj whole
      refine ⟨path.toList, ?_, by rw [String.ofList_toList]; rfl⟩
      rw [bracedPath?_eq_some_iff, toList_braced]
      exact ⟨isPath_iff.mp h, .inl rfl⟩
    | @broken path h =>
      obtain rfl := Value.str.inj whole
      refine ⟨path.toList, ?_, by rw [String.ofList_toList]⟩
      rw [bracedPath?_eq_some_iff, toList_braced_append]
      exact ⟨isPath_iff.mp h, .inr rfl⟩

theorem ofValue?_eq_some_iff {v : Value} {reference : Reference} :
    ofValue? v = some reference ↔ Denotes v reference := by
  cases v with
  | str text => exact parse?_eq_some_iff
  | _ => exact ⟨nofun, nofun⟩

theorem getLast?_braced (path : String) : (braced path).toList.getLast? = some '}' := by
  rw [toList_braced, List.getLast?_concat]

theorem getLast?_broken (path : String) : (braced path ++ "\n").toList.getLast? = some '\n' := by
  rw [String.toList_append]
  exact List.getLast?_concat

namespace Denotes

variable {v : Value} {reference : Reference} (denoted : Denotes v reference)

include denoted

theorem isPath : IsPath reference.path := by
  cases denoted with
  | braced h => exact h
  | broken h => exact h

private theorem eq_str : v = .str reference.raw := by
  cases denoted with
  | braced h => rfl
  | broken h => rfl

/-- A line break behind the brace is all that tells a reference from that to its path. -/
theorem eq_ofPath_iff :
    reference = ofPath reference.path ↔ reference.raw.toList.getLast? ≠ some '\n' := by
  cases denoted with
  | @braced path h =>
    have ends : (ofPath path).raw.toList.getLast? = some '}' := getLast?_braced path
    rw [ends]
    exact iff_of_true rfl (by decide)
  | @broken path h =>
    have ends := getLast?_broken path
    refine iff_of_false (fun same => ?_) fun other => other ends
    have raw : Reference.braced path ++ "\n" = Reference.braced path := congrArg Reference.raw same
    rw [raw, getLast?_braced] at ends
    contradiction

end Denotes

/-- References are the paths in braces, with at most one line break behind them, and the text
of a path in braces is read as the reference to it. -/
theorem ofValue?_by_grammar (v : Value) :
    (∀ reference, ofValue? v = some reference ↔ Denotes v reference) ∧
      (∀ reference, ofValue? v = some reference →
        IsPath reference.path ∧ v = .str reference.raw ∧
          (reference = ofPath reference.path ↔ reference.raw.toList.getLast? ≠ some '\n')) ∧
      ∀ path, IsPath path → ofValue? (.str (ofPath path).raw) = some (ofPath path) := by
  refine ⟨fun reference => ofValue?_eq_some_iff, fun reference found => ?_, fun path h => ?_⟩
  · have denoted := ofValue?_eq_some_iff.mp found
    exact ⟨denoted.isPath, denoted.eq_str, denoted.eq_ofPath_iff⟩
  · exact ofValue?_eq_some_iff.mpr (.braced h)

theorem ofValue?_by_grammar_ink :
    IsPath "a\n" ∧
      ofValue? (.str (ofPath "a\n").raw) = some (ofPath "a\n") ∧
      ofValue? (.str "\x7bink\x7d") = some ⟨"ink", "\x7bink\x7d"⟩ ∧
      (⟨"ink", "\x7bink\x7d"⟩ : Reference) = ofPath "ink" := by
  have h : IsPath "a\n" := by decide
  have found : ofValue? (.str "\x7bink\x7d") = some ⟨"ink", "\x7bink\x7d"⟩ := by decide
  have unbroken : "\x7bink\x7d".toList.getLast? ≠ some '\n' := by decide
  exact ⟨h, (ofValue?_by_grammar .null).2.2 _ h, found,
    ((ofValue?_by_grammar _).2.1 _ found).2.2.mpr unbroken⟩

/-- With a line break behind it, a text is read as a reference that no path has. -/
theorem lineBreak_accepted :
    ofValue? (.str "\x7ba\x7d\n") = some ⟨"a", "\x7ba\x7d\n"⟩ ∧
      ∀ path, braced path ≠ "\x7ba\x7d\n" := by
  refine ⟨by decide, fun path same => ?_⟩
  have ends := getLast?_braced path
  rw [same] at ends
  exact absurd ends (by decide)

end Reference

end DesignTokens
