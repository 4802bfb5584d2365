import DesignTokens.Proofs.Fold
import DesignTokens.Proofs.Json.RoundTrip

/-! When a reader refuses an integer for its size: exactly if the text is read up to an integer
that is too long, with a value allowed there. -/
namespace DesignTokens

namespace Json

theorem Scanned.after_eq_error_iff {front : List Char} {scanned : Scanned} {fault : Fault} :
    scanned.after front = .error fault ↔ scanned = .error fault := by
  cases scanned with
  | error => rfl
  | ok => exact ⟨nofun, nofun⟩

private theorem scanString_ne_longInteger (high : Option Nat) (s : List Char) :
    scanString high s ≠ .error .longInteger := by
  fun_induction scanString high s with
  | case5 | case8 | case10 =>
    rename_i ih
    exact mt Scanned.after_eq_error_iff.mp ih
  | _ => simp

/-- A lexeme is never at fault for an integer. -/
theorem ne_longInteger_of_lexemes (line : Nat) (s : List Char) :
    ∀ lexeme ∈ (lexemes line s).1, lexeme.token ≠ .brokenString .longInteger := by
  fun_induction lexemes line s with
  | case1 => exact fun _ member => absurd member List.not_mem_nil
  | case2 line c rest space ih => exact ih
  | case3 line c rest noSpace followedBy token found ih =>
    refine List.forall_mem_cons.mpr ⟨?_, ih⟩
    rintro rfl
    unfold punctuation? at found
    split at found <;> cases found
  | case4 line rest followedBy t more scanned shorter noSpace noPunctuation ih =>
    exact List.forall_mem_cons.mpr ⟨by simp, ih⟩
  | case5 line rest fault broken noSpace noPunctuation =>
    refine List.forall_mem_singleton.mpr fun same => ?_
    obtain rfl := Token.brokenString.inj same
    exact scanString_ne_longInteger none rest broken
  | case6 line c rest noSpace followedBy noPunctuation noQuote v more scanned shorter ih =>
    exact List.forall_mem_cons.mpr ⟨by simp, ih⟩
  | case7 line c rest noSpace followedBy noPunctuation noQuote noWord v more scanned shorter ih =>
    exact List.forall_mem_cons.mpr ⟨by simp, ih⟩
  | case8 line c rest noSpace noPunctuation noQuote noWord noNumber =>
    exact List.forall_mem_singleton.mpr (by simp)

/-- Where no value may come, nothing is refused for its size. -/
private theorem take_ne_longInteger {bound : Option Nat} {stack : List Open} {need : Need}
    {token : Token}
    (shut : ¬need.IsOpen) (sound : token ≠ .brokenString .longInteger) :
    State.take bound ⟨stack, need⟩ token ≠ .error .longInteger := by
  cases need with
  | value => exact absurd (.inl rfl) shut
  | firstItem => exact absurd (.inr rfl) shut
  | name fields first =>
    cases token with
    | brokenString fault => exact fun same => sound (congrArg _ (Except.error.inj same))
    | endObject => cases first <;> exact nofun
    | _ => exact nofun
  | colon fields name => cases token <;> exact nofun
  | afterValue v =>
    unfold State.take
    dsimp only
    split <;> exact nofun

theorem take_value_eq_longInteger_iff {bound : Option Nat} {stack : List Open} {token : Token}
    (sound : token ≠ .brokenString .longInteger) :
    State.take bound ⟨stack, .value⟩ token = .error .longInteger ↔
      ∃ v, token = .scalar v ∧ isTooLarge bound v = true := by
  cases token with
  | scalar v =>
    unfold State.take
    dsimp only
    split
    · next large => exact iff_of_true rfl ⟨v, rfl, large⟩
    · next small =>
      refine iff_of_false nofun ?_
      rintro ⟨w, same, large⟩
      obtain rfl := Token.scalar.inj same
      exact small large
  | brokenString fault =>
    exact iff_of_false (fun same => sound (congrArg _ (Except.error.inj same))) nofun
  | _ => exact iff_of_false nofun nofun

/-- A lexeme is refused for its size only if it is an integer where a value may come. -/
theorem take_eq_longInteger_iff {bound : Option Nat} {state : State} {token : Token}
    (sound : token ≠ .brokenString .longInteger) :
    state.take bound token = .error .longInteger ↔
      state.need.IsOpen ∧ ∃ v, token = .scalar v ∧ isTooLarge bound v = true := by
  obtain ⟨stack, need⟩ := state
  by_cases opens : need.IsOpen
  · rw [and_iff_right opens, ← @take_value_eq_longInteger_iff bound stack token sound]
    rcases opens with rfl | rfl
    · rfl
    · cases token with
      | endList => exact iff_of_false nofun nofun
      | _ => rw [take_firstItem (by simp)]
  · exact iff_of_false (take_ne_longInteger opens sound) fun h => opens h.1

theorem isTooLarge_iff {bound : Nat} {v : Value} :
    isTooLarge (some bound) v = true ↔ ∃ n : Int, v = .int n ∧ bound ≤ n.natAbs := by
  cases v with
  | int n => simp [isTooLarge]
  | _ => simp [isTooLarge]

private theorem finish_ne_longInteger (state : State) : state.finish ≠ .error .longInteger := by
  unfold State.finish
  split <;> simp

/-- Where a reader stands after a lexeme. -/
def State.next (bound : Option Nat) (state : State) (lexeme : Lexeme) : Except Fault State :=
  state.take bound lexeme.token

/-- But for the line, a reader fails as the fold over the lexemes does. -/
theorem read_eq_longInteger_iff {bound : Option Nat} {lastLine : Nat} {state : State}
    {lexemes : List Lexeme} :
    (∃ line, read bound lastLine state lexemes = .error ⟨.longInteger, line⟩) ↔
      lexemes.foldlM (State.next bound) state = .error .longInteger := by
  induction lexemes generalizing state with
  | nil =>
    refine iff_of_false ?_ (by simp [pure, Except.pure])
    rintro ⟨line, same⟩
    rw [read] at same
    cases finished : state.finish with
    | ok value =>
      rw [finished] at same
      cases same
    | error fault =>
      rw [finished] at same
      cases same
      exact finish_ne_longInteger state finished
  | cons first rest ih =>
    rw [read, List.foldlM_cons, State.next]
    cases state.take bound first.token with
    | error fault => simp [bind, Except.bind]
    | ok next => exact ih

/-- An integer that is too long stands where a value may come, and the text is read up to it. -/
inductive ReachesLongInteger (bound : Nat) (text : List Char) : Prop
  | intro {before after : List Lexeme} {lexeme : Lexeme} {here : State} {n : Int}
    (unmarked : text.head? ≠ some '\ufeff')
    (split : (lexemes 1 text).1 = before ++ lexeme :: after)
    (reads : before.foldlM (State.next (some bound)) ⟨[], .value⟩ = .ok here)
    (opens : here.need.IsOpen) (integer : lexeme.token = .scalar (.int n))
    (long : bound ≤ n.natAbs)

theorem parseWithin_eq_longInteger_iff {bound : Nat} {text : List Char} :
    (∃ line, parseWithin (some bound) text = .error ⟨.longInteger, line⟩) ↔
      ReachesLongInteger bound text := by
  rw [parseWithin]
  split
  · next marked =>
    refine iff_of_false (by simp) ?_
    rintro ⟨unmarked⟩
    exact unmarked marked
  · next unmarked =>
    dsimp only
    rw [read_eq_longInteger_iff, foldlM_eq_error_iff]
    constructor
    · rintro ⟨before, lexeme, after, here, split, reads, fails⟩
      have sound := ne_longInteger_of_lexemes 1 text lexeme (split ▸ List.mem_append_cons_self)
      obtain ⟨opens, v, scalar, large⟩ := (take_eq_longInteger_iff sound).mp fails
      obtain ⟨n, rfl, long⟩ := isTooLarge_iff.mp large
      exact ⟨unmarked, split, reads, opens, scalar, long⟩
    · rintro ⟨-, split, reads, opens, integer, long⟩
      refine ⟨_, _, _, _, split, reads, ?_⟩
      have large := isTooLarge_iff.mpr ⟨_, rfl, long⟩
      have sound := ne_longInteger_of_lexemes 1 text _ (split ▸ List.mem_append_cons_self)
      exact (take_eq_longInteger_iff sound).mpr ⟨opens, _, integer, large⟩

end Json

end DesignTokens
