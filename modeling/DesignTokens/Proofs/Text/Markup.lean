import DesignTokens.Text.Markup
import Mathlib.Data.List.TakeWhile

/-! Tags in markup. An escaped text has none that counts, and where no tag can reach over the
seam, two texts put together have the tags of the one and then those of the other. -/
namespace DesignTokens.Text.Markup

def firstBracket? (s : List Char) : Option Char := s.find? fun c => c = '[' ∨ c = ']'

theorem firstBracket?_append (s t : List Char) :
    firstBracket? (s ++ t) = (firstBracket? s).or (firstBracket? t) := List.find?_append

theorem firstBracket?_cons_of_ne {c : Char} (opens : c ≠ '[') (closes : c ≠ ']') (s : List Char) :
    firstBracket? (c :: s) = firstBracket? s := by
  rw [firstBracket?, List.find?_cons_of_neg (by simp [opens, closes]), firstBracket?]

theorem firstBracket?_eq_none_iff {s : List Char} :
    firstBracket? s = none ↔ ∀ c ∈ s, c ≠ '[' ∧ c ≠ ']' := by
  simp [firstBracket?]

theorem firstBracket?_reverse_eq_none {s : List Char} (clear : firstBracket? s = none) :
    firstBracket? s.reverse = none := by
  rw [firstBracket?_eq_none_iff] at clear ⊢
  exact fun c member => clear c (List.mem_reverse.mp member)

/-- Up to its first bracket a text has no other. -/
theorem exists_of_firstBracket? {s : List Char} {bracket : Char}
    (first : firstBracket? s = some bracket) :
    ∃ before after, s = before ++ bracket :: after ∧ ∀ c ∈ before, c ≠ '[' ∧ c ≠ ']' := by
  obtain ⟨-, before, after, rfl, clear⟩ := List.find?_eq_some_iff_append.mp first
  exact ⟨before, after, rfl, fun c member => by simpa using clear c member⟩

theorem ne_of_startsTag {c : Char} (starts : startsTag c = true) :
    c ≠ backslash ∧ c ≠ '[' ∧ c ≠ ']' := by
  refine ⟨?_, ?_, ?_⟩ <;>
  · rintro rfl
    exact absurd starts (by decide)

def IsTag (tag : List Char) : Prop :=
  ∃ c inner, startsTag c = true ∧ (∀ d ∈ inner, d ≠ '[' ∧ d ≠ ']') ∧
    tag = '[' :: c :: (inner ++ [']'])

/-- A tag that begins here goes up to the next bracket, if that closes it. -/
theorem tag?_open (c : Char) (rest : List Char) :
    tag? ('[' :: c :: rest) =
      match rest.dropWhile fun d => d ≠ '[' ∧ d ≠ ']' with
      | ']' :: after =>
        if startsTag c then
          some ('[' :: c :: ((rest.takeWhile fun d => d ≠ '[' ∧ d ≠ ']') ++ [']']), after)
        else none
      | _ => none := by
  have rests : rest.drop (rest.takeWhile fun d => d ≠ '[' ∧ d ≠ ']').length =
      rest.dropWhile fun d => d ≠ '[' ∧ d ≠ ']' := by
    have dropped := @List.drop_left _ (rest.takeWhile fun d => d ≠ '[' ∧ d ≠ ']')
      (rest.dropWhile fun d => d ≠ '[' ∧ d ≠ ']')
    rwa [List.takeWhile_append_dropWhile] at dropped
  rw [tag?, rests]
  rfl

theorem tag?_append {tag : List Char} (is : IsTag tag) (after : List Char) :
    tag? (tag ++ after) = some (tag, after) := by
  obtain ⟨c, inner, starts, clear, rfl⟩ := is
  have within : ∀ d ∈ inner, decide (d ≠ '[' ∧ d ≠ ']') = true :=
    fun d member => decide_eq_true (clear d member)
  have whole : '[' :: c :: (inner ++ [']']) ++ after = '[' :: c :: (inner ++ ']' :: after) := by
    simp
  rw [whole, tag?_open, List.dropWhile_append_of_pos within, List.takeWhile_append_of_pos within,
    List.dropWhile_cons_of_neg (by decide), List.takeWhile_cons_of_neg (by decide),
    List.append_nil]
  exact if_pos starts

theorem isTag_of_tag? {s tag after : List Char} (found : tag? s = some (tag, after)) :
    IsTag tag ∧ s = tag ++ after := by
  match s with
  | [] => cases found
  | [_] =>
    unfold tag? at found
    split at found
    · next same => cases same
    · cases found
  | c :: d :: rest =>
    by_cases opens : c = '['
    · subst opens
      rw [tag?_open] at found
      split at found
      · next others rests =>
        split at found
        · next starts =>
          obtain ⟨rfl, rfl⟩ := Prod.mk.inj (Option.some.inj found)
          refine ⟨⟨d, _, starts, fun e member => ?_, rfl⟩, ?_⟩
          · have within := List.mem_takeWhile_imp member
            exact of_decide_eq_true within
          · have split := List.takeWhile_append_dropWhile (p := fun d => d ≠ '[' ∧ d ≠ ']')
              (l := rest)
            rw [rests] at split
            rw [List.cons_append, List.cons_append, List.append_assoc, List.singleton_append, split]
        · cases found
      · cases found
    · unfold tag? at found
      split at found
      · next same => exact absurd (List.cons.inj same).1 opens
      · cases found

theorem tag?_cons_isSome_iff {c : Char} {rest : List Char} :
    (tag? (c :: rest)).isSome ↔
      c = '[' ∧ (∃ d, rest.head? = some d ∧ startsTag d = true) ∧
        firstBracket? rest = some ']' := by
  constructor
  · intro found
    obtain ⟨⟨tag, after⟩, found⟩ := Option.isSome_iff_exists.mp found
    obtain ⟨⟨d, inner, starts, clear, rfl⟩, same⟩ := isTag_of_tag? found
    have whole : c :: rest = '[' :: d :: (inner ++ ']' :: after) := by simpa using same
    obtain ⟨rfl, rfl⟩ := List.cons.inj whole
    obtain ⟨-, opens, closes⟩ := ne_of_startsTag starts
    refine ⟨rfl, ⟨d, rfl, starts⟩, ?_⟩
    rw [firstBracket?_cons_of_ne opens closes, firstBracket?_append,
      firstBracket?_eq_none_iff.mpr clear]
    rfl
  · rintro ⟨rfl, ⟨d, head, starts⟩, first⟩
    obtain ⟨-, opens, closes⟩ := ne_of_startsTag starts
    obtain ⟨rest, rfl⟩ := List.head?_eq_some_iff.mp head
    rw [firstBracket?_cons_of_ne opens closes] at first
    obtain ⟨inner, after, rfl, clear⟩ := exists_of_firstBracket? first
    have found := tag?_append ⟨d, inner, starts, clear, rfl⟩ after
    have whole : '[' :: d :: (inner ++ ']' :: after) = '[' :: d :: (inner ++ [']']) ++ after := by
      simp
    rw [whole, found]
    rfl

theorem tag?_cons_of_ne {c : Char} (different : c ≠ '[') (rest : List Char) :
    tag? (c :: rest) = none :=
  Option.not_isSome_iff_eq_none.mp fun found => different (tag?_cons_isSome_iff.mp found).1

def slashes (n : Nat) : List Char := List.replicate n backslash

theorem backslashes_slashes_append {s : List Char} (ends : s.head? ≠ some backslash) (n : Nat) :
    backslashes (slashes n ++ s) = n := by
  have none : s.takeWhile (· = backslash) = [] := by
    cases s with
    | nil => rfl
    | cons c rest => exact List.takeWhile_cons_of_neg (by simpa using ends)
  rw [backslashes, slashes, List.takeWhile_append_of_pos (by simp), none, List.append_nil,
    List.length_replicate]

theorem drop_backslashes {s : List Char} (ends : s.head? ≠ some backslash) (n : Nat) :
    (slashes n ++ s).drop (backslashes (slashes n ++ s)) = s := by
  rw [backslashes_slashes_append ends]
  exact List.drop_left' List.length_replicate

/-- A text is nothing but backslashes, or after some of them comes a tag, or a character with
which none begins. -/
theorem induction {P : List Char → Prop} (only : ∀ n, P (slashes n))
    (tagged : ∀ n tag after, IsTag tag → P after → P (slashes n ++ (tag ++ after)))
    (passed : ∀ n c rest, c ≠ backslash → tag? (c :: rest) = none → P rest →
      P (slashes n ++ c :: rest)) (s : List Char) : P s := by
  induction size : s.length using Nat.strongRecOn generalizing s with
  | ind size ih =>
    subst size
    have before : s.takeWhile (· = backslash) = slashes (backslashes s) :=
      List.eq_replicate_of_mem fun c member => by simpa using List.mem_takeWhile_imp member
    have split := List.takeWhile_append_dropWhile (p := (· = backslash)) (l := s)
    rw [before] at split
    cases rests : s.dropWhile (· = backslash) with
    | nil =>
      rw [rests, List.append_nil] at split
      exact split ▸ only _
    | cons c rest =>
      have different : c ≠ backslash := by
        have ends := List.head?_dropWhile_not (· = backslash) s
        rw [rests] at ends
        simpa using ends
      rw [rests] at split
      cases found : tag? (c :: rest) with
      | none =>
        have smaller : rest.length < s.length := by
          rw [← split, List.length_append, List.length_cons]
          omega
        exact split ▸ passed _ c rest different found (ih _ smaller rest rfl)
      | some cut =>
        obtain ⟨tag, after⟩ := cut
        obtain ⟨is, same⟩ := isTag_of_tag? found
        have smaller : after.length < s.length := by
          have size := congrArg List.length same
          obtain ⟨c, inner, -, -, rfl⟩ := is
          rw [← split, List.length_append, size, List.length_append, List.length_cons]
          omega
        rw [same] at split
        exact split ▸ tagged _ tag after is (ih _ smaller after rfl)

/-- Text put before what was cut. -/
def before (text : List Char) : List Piece × List Char → List Piece × List Char
  | ([], last) => ([], text ++ last)
  | (piece :: more, last) => ({ piece with text := text ++ piece.text } :: more, last)

theorem before_before (text other : List Char) (cuts : List Piece × List Char) :
    before text (before other cuts) = before (text ++ other) cuts := by
  obtain ⟨_ | ⟨piece, more⟩, last⟩ := cuts <;> simp [before]

theorem pieces_eq_before (fuel : Nat) (text s : List Char) :
    pieces fuel text s = before text.reverse (pieces fuel [] s) := by
  induction fuel generalizing text s with
  | zero => rfl
  | succ fuel ih =>
    cases s with
    | nil => simp [pieces, before]
    | cons c rest =>
      rw [pieces, pieces]
      dsimp only
      split
      · simp [before]
      · rw [ih (_ ++ text), ih (_ ++ []), before_before]
        simp

/-- With fuel for every character it does not matter how much of it there is. -/
theorem pieces_eq_of_lt {fuel other : Nat} {s : List Char} (enough : s.length < fuel)
    (enough' : s.length < other) : pieces fuel [] s = pieces other [] s := by
  induction fuel generalizing other s with
  | zero => exact absurd enough (Nat.not_lt_zero _)
  | succ fuel ih =>
    cases other with
    | zero => exact absurd enough' (Nat.not_lt_zero _)
    | succ other =>
      cases s with
      | nil => rfl
      | cons c rest =>
        rw [List.length_cons] at enough enough'
        have passed : 1 ≤ ((c :: rest).take (max 1 (backslashes (c :: rest)))).length := by
          rw [List.length_take, List.length_cons]
          omega
        rw [pieces, pieces]
        dsimp only
        split
        · next tag after found =>
          have smaller : after.length ≤ rest.length := by
            have size := congrArg List.length (isTag_of_tag? found).2
            obtain ⟨⟨d, inner, -, -, rfl⟩, -⟩ := isTag_of_tag? found
            simp only [List.length_drop, List.length_append, List.length_cons] at size
            omega
          rw [ih (by omega) (by omega : after.length < other)]
        · have smaller : ((c :: rest).drop
              ((c :: rest).take (max 1 (backslashes (c :: rest)))).length).length ≤ rest.length := by
            rw [List.length_drop, List.length_cons]
            omega
          rw [pieces_eq_before fuel, pieces_eq_before other,
            ih (by omega) (by omega : _ < other)]

theorem cut_of_tag? {s tag after : List Char}
    (found : tag? (s.drop (backslashes s)) = some (tag, after)) :
    cut s = (⟨[], backslashes s, tag⟩ :: (cut after).1, (cut after).2) := by
  cases s with
  | nil => cases found
  | cons c rest =>
    have smaller : after.length < (c :: rest).length := by
      have size := congrArg List.length (isTag_of_tag? found).2
      obtain ⟨⟨d, inner, -, -, rfl⟩, -⟩ := isTag_of_tag? found
      simp only [List.length_drop, List.length_append, List.length_cons] at size ⊢
      omega
    rw [cut, pieces]
    dsimp only
    rw [found]
    dsimp only
    rw [pieces_eq_of_lt smaller (Nat.lt_succ_self after.length), List.reverse_nil]
    rfl

theorem cut_of_no_tag {s : List Char} (found : tag? (s.drop (backslashes s)) = none) :
    cut s = before (s.take (max 1 (backslashes s))) (cut (s.drop (max 1 (backslashes s)))) := by
  cases s with
  | nil => rfl
  | cons c rest =>
    have within : max 1 (backslashes (c :: rest)) ≤ (c :: rest).length := by
      have := (List.takeWhile_prefix (l := c :: rest) (· = backslash)).length_le
      rw [backslashes]
      rw [List.length_cons] at this ⊢
      omega
    have smaller : ((c :: rest).drop (max 1 (backslashes (c :: rest)))).length <
        (c :: rest).length := by
      rw [List.length_drop, List.length_cons]
      omega
    rw [cut, pieces]
    dsimp only
    rw [found]
    dsimp only
    rw [List.length_take, Nat.min_eq_left within, pieces_eq_before, List.append_nil,
      List.reverse_reverse, pieces_eq_of_lt smaller (Nat.lt_succ_self _)]
    rfl

theorem cut_slashes (n : Nat) : cut (slashes n) = ([], slashes n) := by
  have count : backslashes (slashes n) = n := by
    simpa using backslashes_slashes_append (s := []) (by simp) n
  have size : (slashes n).length = n := List.length_replicate
  have found : tag? ((slashes n).drop (backslashes (slashes n))) = none := by
    rw [count, List.drop_of_length_le size.le]
    rfl
  rw [cut_of_no_tag found, count, List.take_of_length_le (by omega),
    List.drop_of_length_le (by omega)]
  exact congrArg (Prod.mk []) (List.append_nil _)

theorem cut_tag (n : Nat) {tag : List Char} (is : IsTag tag) (after : List Char) :
    cut (slashes n ++ (tag ++ after)) = (⟨[], n, tag⟩ :: (cut after).1, (cut after).2) := by
  have ends : (tag ++ after).head? ≠ some backslash := by
    obtain ⟨c, inner, -, -, rfl⟩ := is
    simp [backslash]
  have found : tag? ((slashes n ++ (tag ++ after)).drop
      (backslashes (slashes n ++ (tag ++ after)))) = some (tag, after) := by
    rw [drop_backslashes ends]
    exact tag?_append is after
  rw [cut_of_tag? found, backslashes_slashes_append ends]

theorem cut_cons {c : Char} {rest : List Char} (different : c ≠ backslash)
    (none : tag? (c :: rest) = none) : cut (c :: rest) = before [c] (cut rest) := by
  have count : backslashes (c :: rest) = 0 :=
    backslashes_slashes_append (s := c :: rest) (by simpa using different) 0
  rw [cut_of_no_tag (by rwa [count]), count]
  rfl

theorem cut_pass (n : Nat) {c : Char} {rest : List Char} (different : c ≠ backslash)
    (none : tag? (c :: rest) = none) :
    cut (slashes n ++ c :: rest) = before (slashes n ++ [c]) (cut rest) := by
  have ends : (c :: rest).head? ≠ some backslash := by simpa using different
  cases n with
  | zero => exact cut_cons different none
  | succ n =>
    have size : (slashes (n + 1)).length = max 1 (n + 1) := by
      rw [slashes, List.length_replicate]
      omega
    rw [cut_of_no_tag (by rwa [drop_backslashes ends]), backslashes_slashes_append ends, ← size,
      List.take_left, List.drop_left, cut_cons different none, before_before]

/-- The tags with an even number of backslashes before them. -/
def tagsOf (s : List Char) : List (List Char) :=
  ((cut s).1.filter fun piece => piece.backslashes % 2 = 0).map Piece.tag

theorem tagsOf_slashes (n : Nat) : tagsOf (slashes n) = [] := by rw [tagsOf, cut_slashes]; rfl

theorem tagsOf_tag (n : Nat) {tag : List Char} (is : IsTag tag) (after : List Char) :
    tagsOf (slashes n ++ (tag ++ after)) = (if n % 2 = 0 then [tag] else []) ++ tagsOf after := by
  rw [tagsOf, cut_tag n is, List.filter_cons]
  by_cases even : n % 2 = 0 <;> simp [even, tagsOf]

theorem tagsOf_pass (n : Nat) {c : Char} {rest : List Char} (different : c ≠ backslash)
    (none : tag? (c :: rest) = none) : tagsOf (slashes n ++ c :: rest) = tagsOf rest := by
  rw [tagsOf, cut_pass n different none, tagsOf]
  obtain ⟨_ | ⟨piece, more⟩, last⟩ := cut rest
  · rfl
  · rw [before, List.filter_cons, List.filter_cons]
    split <;> rfl

/-- No tag reaches from the one text into the other. -/
def Apart (s t : List Char) : Prop :=
  firstBracket? s.reverse ≠ some '[' ∨ firstBracket? t ≠ some ']'

theorem Apart.of_append {r s t : List Char} (apart : Apart (r ++ s) t) : Apart s t := by
  refine apart.imp_left fun closed opened => closed ?_
  rw [List.reverse_append, firstBracket?_append, opened]
  rfl

/-- Where none begins, none begins with more text behind. -/
theorem tag?_append_eq_none {c : Char} {rest t : List Char} (apart : Apart (c :: rest) t)
    (none : tag? (c :: rest) = none) : tag? (c :: (rest ++ t)) = .none := by
  rw [← Option.not_isSome_iff_eq_none, tag?_cons_isSome_iff] at none ⊢
  rintro ⟨rfl, ⟨d, head, starts⟩, first⟩
  rw [firstBracket?_append] at first
  cases within : firstBracket? rest with
  | none =>
    -- The bracket that closes the tag stands behind, and that in front is the last one there.
    rw [within, Option.none_or] at first
    refine apart.elim (fun closed => closed ?_) (fun opened => opened first)
    rw [List.reverse_cons, firstBracket?_append, firstBracket?_reverse_eq_none within]
    rfl
  | some bracket =>
    rw [within, Option.some_or] at first
    cases rest with
    | nil => cases within
    | cons e rest => exact none ⟨rfl, ⟨d, head, starts⟩, within.trans first⟩

/-- The backslashes at the end of a text. -/
def endSlashes (s : List Char) : Nat := backslashes s.reverse

theorem endSlashes_append {s : List Char} {c : Char} (different : c ≠ backslash) (r : List Char) :
    endSlashes (r ++ c :: s) = endSlashes s := by
  rw [endSlashes, List.reverse_append, List.reverse_cons, List.append_assoc, backslashes,
    List.takeWhile_append, endSlashes, backslashes]
  split
  · next all => rw [List.singleton_append, List.takeWhile_cons_of_neg (by simpa using different),
      List.append_nil, all]
  · rfl

private theorem endSlashes_slashes (n : Nat) : endSlashes (slashes n) = n := by
  rw [endSlashes, slashes, List.reverse_replicate, ← slashes]
  simpa using backslashes_slashes_append (s := []) (by simp) n

theorem tagsOf_append {s t : List Char} (apart : Apart s t) :
    tagsOf (s ++ t) = tagsOf s ++ tagsOf (slashes (endSlashes s) ++ t) := by
  induction s using induction with
  | only n =>
    rw [tagsOf_slashes, endSlashes_slashes, List.nil_append]
  | tagged n tag after is ih =>
    have apart : Apart after t := by
      rw [← List.append_assoc] at apart
      exact apart.of_append
    have count : endSlashes (slashes n ++ (tag ++ after)) = endSlashes after := by
      obtain ⟨c, inner, -, -, rfl⟩ := is
      have := endSlashes_append (s := after) (c := ']') (by decide)
        (slashes n ++ '[' :: c :: inner)
      rw [← this]
      simp
    rw [List.append_assoc, List.append_assoc, tagsOf_tag n is, tagsOf_tag n is, ih apart, count,
      List.append_assoc]
  | passed n c rest different none ih =>
    have more := tag?_append_eq_none (apart.of_append) none
    have apart : Apart rest t := Apart.of_append (r := [c]) apart.of_append
    rw [List.append_assoc, List.cons_append, tagsOf_pass n different more,
      tagsOf_pass n different none, endSlashes_append different, ih apart]

theorem tagsOf_of_notMem {s : List Char} (clear : '[' ∉ s) : tagsOf s = [] := by
  induction s using induction with
  | only n => exact tagsOf_slashes n
  | tagged n tag after is ih =>
    obtain ⟨c, inner, -, -, rfl⟩ := is
    exact absurd (by simp) clear
  | passed n c rest different none ih =>
    rw [tagsOf_pass n different none]
    exact ih fun member => clear (by simp [member])

/-- Text without brackets in front, unless it ends with a backslash, changes nothing. -/
theorem tagsOf_plain_append {s : List Char} (clear : firstBracket? s = none)
    (ends : endSlashes s = 0) (t : List Char) : tagsOf (s ++ t) = tagsOf t := by
  have apart : Apart s t := .inl (by rw [firstBracket?_reverse_eq_none clear]; nofun)
  have none : tagsOf s = [] :=
    tagsOf_of_notMem fun member => (firstBracket?_eq_none_iff.mp clear _ member).1 rfl
  rw [tagsOf_append apart, none, ends]
  rfl

/-- What was cut, put together with its tags escaped. -/
def marked (cuts : List Piece × List Char) : List Char :=
  cuts.1.flatMap (fun piece =>
    piece.text ++ List.replicate (2 * piece.backslashes + 1) backslash ++ piece.tag) ++ cuts.2

theorem escape_eq (s : List Char) : escape s = closeEnd (marked (cut s)) := rfl

theorem marked_before (text : List Char) (cuts : List Piece × List Char) :
    marked (before text cuts) = text ++ marked cuts := by
  obtain ⟨_ | ⟨piece, more⟩, last⟩ := cuts <;> simp [marked, before]

theorem marked_tag (n : Nat) (tag : List Char) (cuts : List Piece × List Char) :
    marked (⟨[], n, tag⟩ :: cuts.1, cuts.2) = slashes (2 * n + 1) ++ (tag ++ marked cuts) := by
  simp [marked, slashes]

theorem firstBracket?_slashes (n : Nat) : firstBracket? (slashes n) = none :=
  firstBracket?_eq_none_iff.mpr fun c member => by
    rw [List.eq_of_mem_replicate member]
    decide

theorem firstBracket?_marked (s : List Char) :
    firstBracket? (marked (cut s)) = firstBracket? s := by
  induction s using induction with
  | only n => rw [cut_slashes]; rfl
  | tagged n tag after is ih =>
    rw [cut_tag n is, marked_tag, firstBracket?_append, firstBracket?_append, firstBracket?_append,
      firstBracket?_append, firstBracket?_slashes, firstBracket?_slashes, ih]
  | passed n c rest different none ih =>
    have whole : slashes n ++ c :: rest = slashes n ++ [c] ++ rest := by simp
    rw [cut_pass n different none, marked_before, firstBracket?_append, ih, whole,
      firstBracket?_append (_ ++ _)]

/-- What is put in at the front of a text is a backslash. -/
private theorem head?_marked (s : List Char) :
    (marked (cut s)).head? = s.head? ∨ (marked (cut s)).head? = some backslash := by
  induction s using induction with
  | only n => rw [cut_slashes]; exact .inl rfl
  | tagged n tag after is ih =>
    rw [cut_tag n is, marked_tag, slashes, List.replicate_succ]
    exact .inr rfl
  | passed n c rest different none ih =>
    rw [cut_pass n different none, marked_before]
    cases n <;> exact .inl rfl

theorem tagsOf_marked (s : List Char) : tagsOf (marked (cut s)) = [] := by
  induction s using induction with
  | only n => rw [cut_slashes]; exact tagsOf_slashes n
  | tagged n tag after is ih =>
    rw [cut_tag n is, marked_tag, tagsOf_tag _ is, ih, if_neg (by omega)]
    rfl
  | passed n c rest different none ih =>
    have still : tag? (c :: marked (cut rest)) = .none := by
      rw [← Option.not_isSome_iff_eq_none, tag?_cons_isSome_iff] at none ⊢
      rintro ⟨rfl, ⟨d, head, starts⟩, first⟩
      rw [firstBracket?_marked] at first
      rcases head?_marked rest with same | slash
      · exact none ⟨rfl, ⟨d, same ▸ head, starts⟩, first⟩
      · rw [slash] at head
        exact (ne_of_startsTag starts).1 (Option.some.inj head).symm
    rw [cut_pass n different none, marked_before, List.append_assoc, List.singleton_append,
      tagsOf_pass n different still, ih]

theorem closeEnd_cases (s : List Char) : closeEnd s = s ∨ closeEnd s = s ++ [backslash] := by
  rw [closeEnd]
  split
  · exact .inr rfl
  · exact .inl rfl

theorem firstBracket?_escape (s : List Char) : firstBracket? (escape s) = firstBracket? s := by
  rw [escape_eq]
  rcases closeEnd_cases (marked (cut s)) with same | more
  · rw [same, firstBracket?_marked]
  · rw [more, firstBracket?_append, firstBracket?_marked]
    exact Option.or_none

theorem tagsOf_escape (s : List Char) : tagsOf (escape s) = [] := by
  rw [escape_eq]
  rcases closeEnd_cases (marked (cut s)) with same | more
  · rw [same, tagsOf_marked]
  · have slash (n : Nat) : slashes n ++ [backslash] = slashes (n + 1) := List.replicate_succ'.symm
    rw [more, tagsOf_append (.inr (by decide)), tagsOf_marked, slash, tagsOf_slashes]
    rfl

private theorem isSome_shownFrom? (opened : List (List Char)) (last : List Char)
    (pieces : List Piece) :
    (shownFrom? opened last pieces).isSome =
      (((pieces.filter fun piece => piece.backslashes % 2 = 0).map Piece.tag).foldlM afterTag?
        opened).isSome := by
  induction pieces generalizing opened with
  | nil => rfl
  | cons piece rest ih =>
    by_cases even : piece.backslashes % 2 = 0
    · have odd : ¬ piece.backslashes % 2 = 1 := by omega
      rw [List.filter_cons_of_pos (by simpa using even), List.map_cons, List.foldlM_cons,
        shownFrom?]
      cases after : afterTag? opened piece.tag with
      | none => simp [odd]
      | some more =>
        simp only [Option.bind_eq_bind, Option.bind_some, ← ih more, if_neg odd]
        cases later : shownFrom? more last rest <;> simp
    · have odd : piece.backslashes % 2 = 1 := by omega
      rw [List.filter_cons_of_neg (by simpa using even), ← ih, shownFrom?]
      cases later : shownFrom? opened last rest <;> simp [odd, later]

/-- Markup is shown as long as its tags close none that is not open. -/
theorem isSome_shown? (s : List Char) :
    (shown? s).isSome = ((tagsOf s).foldlM afterTag? []).isSome := by
  rw [shown?, Option.isSome_map]
  split
  · rw [isSome_shownFrom?, tagsOf]
  · next clear =>
    have none : '[' ∉ s := by simpa using clear
    rw [tagsOf_of_notMem none]
    rfl

end DesignTokens.Text.Markup
