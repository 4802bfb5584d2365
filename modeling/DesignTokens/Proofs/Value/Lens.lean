import DesignTokens.Action
import DesignTokens.Proofs.Value.Sites
import Mathlib.Data.List.Perm.Basic

/-! Reading and writing inside a value. What one step of a location reads and writes is told for
lists and objects together, and the laws of whole locations follow step by step. Main statement:
what is written is read, all that stands apart from it or around it stays, writes apart from each
other may change places, and so may the writes at all the sites of a value. -/
namespace DesignTokens.Value

/-- Lists of one length, objects with the same keys in the same order, and equal values. -/
def SameFrame : Value → Value → Prop
  | .list items, .list others => items.length = others.length
  | .object fields, .object others => Entries.keys fields = Entries.keys others
  | value, other => value = other

theorem SameFrame.refl (value : Value) : value.SameFrame value := by
  cases value <;> rfl

namespace Holds

variable {value inner inner' : Value} {step step' : Step}

theorem exchange_self (holds : value.Holds step inner) : value.exchange step inner = value := by
  cases holds with
  | item found =>
    obtain ⟨within, same⟩ := List.getElem?_eq_some_iff.mp found
    rw [← same]
    exact congrArg Value.list (List.set_getElem_self within)
  | field found => exact congrArg Value.object (Entries.put_of_lookup found)

theorem exchange_exchange (holds : value.Holds step inner) (item other : Value) :
    (value.exchange step item).exchange step other = value.exchange step other := by
  cases holds with
  | item found => exact congrArg Value.list (List.set_set ..)
  | field found => exact congrArg Value.object (Entries.put_put ..)

theorem exchange_comm (holds : value.Holds step inner) (different : step ≠ step')
    (other : value.Holds step' inner') (item item' : Value) :
    (value.exchange step item).exchange step' item' =
      (value.exchange step' item').exchange step item := by
  cases holds with
  | item found =>
    cases other with
    | item found' =>
      refine congrArg Value.list (List.set_comm _ _ ?_)
      rintro rfl
      exact different rfl
  | field found =>
    cases other with
    | field found' =>
      refine congrArg Value.object (Entries.put_comm (Entries.mem_keys_of_lookup found) ?_ ..)
      rintro rfl
      exact different rfl

theorem sameFrame_exchange (holds : value.Holds step inner) (item : Value) :
    (value.exchange step item).SameFrame value := by
  cases holds with
  | item found => exact List.length_set
  | field found =>
    exact (Entries.keys_put ..).trans (if_pos (Entries.mem_keys_of_lookup found))

end Holds

/-- Apart from lists and objects only texts have items, and a position from the end is below
zero. -/
theorem holds_of_child {value inner : Value} {step : Step} (found : value.child step = .ok inner)
    (noText : ∀ text, value ≠ .str text) (forward : ∀ i, step = .index i → 0 ≤ i) :
    value.Holds step inner := by
  unfold Value.child at found
  split at found
  · next items i =>
    obtain ⟨position, rfl⟩ := Int.eq_ofNat_of_zero_le (forward i rfl)
    by_cases within : position < items.length
    · rw [position?_natCast within] at found
      dsimp only at found
      rw [List.getElem?_eq_getElem within] at found
      obtain rfl := Except.ok.inj found
      exact .item (List.getElem?_eq_getElem within)
    · have absent : position? items.length position = none := by simp [position?, within]
      rw [absent] at found
      contradiction
  · next fields key =>
    cases lookup : fields.lookup key with
    | none =>
      rw [lookup] at found
      contradiction
    | some item =>
      rw [lookup] at found
      obtain rfl := Except.ok.inj found
      exact .field lookup
  · contradiction
  · next text i => exact absurd rfl (noText text)
  · contradiction

/-- The location can be read, counts from the front only, and leads through no text. -/
structure LeadsTo (value : Value) (location : Location) (part : Value) : Prop where
  read : value.get location = .ok part
  forward : ∀ i, Step.index i ∈ location → 0 ≤ i
  through : ∀ front step back, location = front ++ step :: back →
    ∀ text, value.get front ≠ .ok (.str text)

theorem get_cons {value inner : Value} {step : Step} (found : value.child step = .ok inner)
    (rest : Location) : value.get (step :: rest) = inner.get rest := by
  rw [Value.get, found]
  rfl

theorem LeadsTo.cons {value inner part : Value} {step : Step} {rest : Location}
    (holds : value.Holds step inner) (leads : inner.LeadsTo rest part) :
    value.LeadsTo (step :: rest) part where
  read := (get_cons holds.child rest).trans leads.read
  forward i member := by
    rcases List.mem_cons.mp member with same | later
    · cases holds with
      | item found =>
        obtain rfl := Step.index.inj same
        exact Int.natCast_nonneg _
      | field found => contradiction
    · exact leads.forward i later
  through front next back split text := by
    cases front with
    | nil =>
      rintro ⟨⟩
      cases holds
    | cons first front =>
      obtain ⟨rfl, later⟩ := List.cons.inj split
      rw [get_cons holds.child]
      exact leads.through front next back later text

theorem LeadsTo.exists_holds {value part : Value} {step : Step} {rest : Location}
    (leads : value.LeadsTo (step :: rest) part) :
    ∃ inner, value.Holds step inner ∧ inner.LeadsTo rest part := by
  obtain ⟨read, forward, through⟩ := leads
  cases found : value.child step with
  | error e =>
    rw [Value.get, found] at read
    contradiction
  | ok inner =>
    refine ⟨inner, holds_of_child found
      (fun text same => through [] step rest rfl text (congrArg _ same))
      (fun i same => forward i (same ▸ List.mem_cons_self)), ?_, ?_, ?_⟩
    · rw [← get_cons found, read]
    · exact fun i later => forward i (List.mem_cons_of_mem _ later)
    · intro front next back split text
      rw [← get_cons found]
      exact through (step :: front) next back (congrArg (step :: ·) split) text

theorem leadsTo_iff {value part : Value} {location : Location} :
    value.LeadsTo location part ↔ value.HoldsAt location part := by
  induction location generalizing value with
  | nil =>
    constructor
    · rintro ⟨same, -, -⟩
      obtain rfl := Except.ok.inj same
      exact .here value
    · rintro ⟨⟩
      exact ⟨rfl, nofun, fun front step back same => by simp at same⟩
  | cons step rest ih =>
    rw [holdsAt_cons_iff]
    constructor
    · intro leads
      obtain ⟨inner, holds, below⟩ := leads.exists_holds
      exact ⟨inner, holds, ih.mp below⟩
    · rintro ⟨inner, holds, inside⟩
      exact .cons holds (ih.mpr inside)

theorem HoldsAt.of_append {value whole part : Value} {location rest : Location}
    (below : value.HoldsAt (location ++ rest) part) (holds : value.HoldsAt location whole) :
    whole.HoldsAt rest part := by
  induction location generalizing value with
  | nil =>
    cases holds
    exact below
  | cons step front ih =>
    obtain ⟨inner, found, inside⟩ := holdsAt_cons_iff.mp holds
    obtain ⟨inner', found', below⟩ := holdsAt_cons_iff.mp below
    obtain rfl := found.unique found'
    exact ih below inside

namespace HoldsAt

variable {value old : Value} {location : Location}

theorem write_self (holds : value.HoldsAt location old) : value.write location old = .ok value := by
  induction location generalizing value with
  | nil =>
    cases holds
    rfl
  | cons step rest ih =>
    obtain ⟨inner, found, inside⟩ := holdsAt_cons_iff.mp holds
    rw [found.write_cons (ih inside), found.exchange_self]

/-- Writing below a place is writing in what stands there. -/
theorem write_append {whole changed item : Value} {rest : Location}
    (holds : value.HoldsAt location whole) (written : whole.write rest item = .ok changed) :
    value.write (location ++ rest) item = value.write location changed := by
  induction location generalizing value with
  | nil =>
    cases holds
    exact written
  | cons step front ih =>
    obtain ⟨inner, found, inside⟩ := holdsAt_cons_iff.mp holds
    obtain ⟨inner', written', -⟩ := inside.exists_write changed
    exact (found.write_cons ((ih inside).trans written')).trans (found.write_cons written').symm

theorem write_comm {other : Location} {old' : Value} (holds : value.HoldsAt location old)
    (holds' : value.HoldsAt other old') (apart : Apart location other) (item item' : Value) :
    ∃ first second both, value.write location item = .ok first ∧
      value.write other item' = .ok second ∧ first.write other item' = .ok both ∧
      second.write location item = .ok both := by
  induction location generalizing value other with
  | nil => exact absurd apart (not_apart_nil other)
  | cons step rest ih =>
    cases other with
    | nil => exact absurd apart.symm (not_apart_nil _)
    | cons step' rest' =>
      obtain ⟨inner, found, inside⟩ := holdsAt_cons_iff.mp holds
      obtain ⟨inner', found', inside'⟩ := holdsAt_cons_iff.mp holds'
      by_cases same : step = step'
      · subst same
        obtain rfl := found.unique found'
        obtain ⟨first, second, both, written, written', after, after'⟩ :=
          ih inside inside' (apart_cons_iff.mp apart rfl)
        refine ⟨_, _, value.exchange step both, found.write_cons written,
          found.write_cons written', ?_, ?_⟩
        · rw [(found.exchange first).write_cons after, found.exchange_exchange]
        · rw [(found.exchange second).write_cons after', found.exchange_exchange]
      · obtain ⟨first, written, -⟩ := inside.exists_write item
        obtain ⟨second, written', -⟩ := inside'.exists_write item'
        refine ⟨_, _, _, found.write_cons written, found'.write_cons written',
          (found.exchange_of_ne same found' first).write_cons written', ?_⟩
        rw [(found'.exchange_of_ne (Ne.symm same) found second).write_cons written,
          found.exchange_comm same found']

/-- Around what is written, lists keep their lengths and objects their keys. -/
theorem sameFrame {item changed : Value} (holds : value.HoldsAt location old)
    (written : value.write location item = .ok changed) {other : Location} {part : Value}
    (outside : ¬ location <+: other) (there : value.HoldsAt other part) :
    ∃ kept, changed.HoldsAt other kept ∧ kept.SameFrame part := by
  by_cases above : other <+: location
  · obtain ⟨rest, rfl⟩ := above
    have below := holds.of_append there
    cases rest with
    | nil =>
      rw [List.append_nil] at outside
      exact absurd List.prefix_rfl outside
    | cons step rest =>
      obtain ⟨inner, found, inside⟩ := holdsAt_cons_iff.mp below
      obtain ⟨inner', written', -⟩ := inside.exists_write item
      obtain ⟨changed', again, replaces⟩ := there.exists_write (part.exchange step inner')
      rw [there.write_append (found.write_cons written'), again] at written
      obtain rfl := Except.ok.inj written
      exact ⟨_, replaces.held, found.sameFrame_exchange inner'⟩
  · obtain ⟨changed', again, replaces⟩ := holds.exists_write item
    obtain rfl := Except.ok.inj (written.symm.trans again)
    exact ⟨part, replaces.others ⟨outside, above⟩ there, .refl part⟩

end HoldsAt

theorem HoldsAt.set_comm {value old old' : Value} {location other : Location}
    (holds : value.HoldsAt location old) (holds' : value.HoldsAt other old')
    (apart : Apart location other) (item item' : Value) :
    ∃ both, (value.set location item).bind (·.set other item') = .ok both ∧
      (value.set other item').bind (·.set location item) = .ok both := by
  obtain ⟨first, second, both, written, written', after, after'⟩ :=
    holds.write_comm holds' apart item item'
  have inside : location ≠ [] := by
    rintro rfl
    exact not_apart_nil other apart
  have inside' : other ≠ [] := by
    rintro rfl
    exact not_apart_nil location apart.symm
  rw [write_of_ne_nil inside] at written after'
  rw [write_of_ne_nil inside'] at written' after
  rw [written, written']
  exact ⟨both, after, after'⟩

/-- Reads up to the last step, and puts the item behind that step where the list or the object it
leads from stands. -/
def assign (location : Location) (item : Value) : Action Value AccessError Unit := do
  let value ← Action.state
  let parent ← Action.ofExcept id (value.get location.dropLast)
  let some step := location.getLast? | throw .emptyLocation
  let changed ← Action.ofExcept id (parent.replaceChild step item)
  Action.put (value.putAt location.dropLast changed)

private theorem get_str {text : String} {location : Location} {part : Value}
    (read : (str text).get location = .ok part) : ∃ other, part = .str other := by
  induction location generalizing text with
  | nil => exact ⟨text, (Except.ok.inj read).symm⟩
  | cons step rest ih =>
    rw [Value.get] at read
    cases step with
    | key name => contradiction
    | index i =>
      rw [Value.child] at read
      split at read
      · exact ih read
      · contradiction

private theorem exists_replaceChild {value inner : Value} {step : Step}
    (found : value.child step = .ok inner) (noText : ∀ text, value ≠ .str text) (item : Value) :
    ∃ changed, value.replaceChild step item = .ok changed := by
  unfold Value.child at found
  split at found
  · unfold Value.replaceChild
    dsimp only
    split at found
    · exact ⟨_, rfl⟩
    · contradiction
  · exact ⟨_, rfl⟩
  · contradiction
  · next text i => exact absurd rfl (noText text)
  · contradiction

/-- What is read and is no text can be written again. -/
theorem exists_write_of_get {value part : Value} {location : Location}
    (read : value.get location = .ok part) (noText : ∀ text, part ≠ .str text) (item : Value) :
    ∃ changed, value.write location item = .ok changed := by
  induction location generalizing value with
  | nil => exact ⟨item, rfl⟩
  | cons step rest ih =>
    cases found : value.child step with
    | error e =>
      rw [Value.get, found] at read
      contradiction
    | ok inner =>
      obtain ⟨inner', written⟩ := ih ((get_cons found rest).symm.trans read)
      rw [write_of_child found, written]
      refine exists_replaceChild found ?_ inner'
      rintro text rfl
      obtain ⟨other, same⟩ := get_str read
      exact noText other same

theorem set_concat (value : Value) (front : Location) (step : Step) (item : Value) :
    value.set (front ++ [step]) item = (value.get front).bind fun parent =>
      (parent.replaceChild step item).bind (value.write front) := by
  induction front generalizing value with
  | nil =>
    have written : value.write [] = Except.ok := rfl
    rw [written]
    exact (bind_pure (value.replaceChild step item)).symm
  | cons first rest ih =>
    have inside : rest ++ [step] ≠ [] := by simp
    obtain ⟨next, others, same⟩ := List.exists_cons_of_ne_nil inside
    rw [List.cons_append, Value.get]
    cases found : value.child first with
    | error e =>
      rw [same, set, found]
      rfl
    | ok inner =>
      rw [← write_of_ne_nil (List.cons_ne_nil _ _), write_of_child found, write_of_ne_nil inside,
        ih]
      dsimp only [bind, Except.bind]
      cases inner.get rest with
      | error e => rfl
      | ok parent =>
        dsimp only
        cases parent.replaceChild step item with
        | error e => rfl
        | ok changed => exact (write_of_child found rest changed).symm

private theorem not_str_of_replaceChild {value item changed : Value} {step : Step}
    (replaced : value.replaceChild step item = .ok changed) (text : String) :
    value ≠ .str text := by
  rintro rfl
  contradiction

theorem putAt_of_write {value item changed : Value} {location : Location}
    (written : value.write location item = .ok changed) :
    value.putAt location item = changed := by
  unfold putAt
  by_cases whole : location = []
  · subst whole
    exact Except.ok.inj written
  · rw [write_of_ne_nil whole] at written
    rw [if_neg whole, splice, written]

/-- Writing in place comes to the written value, or fails and leaves the value as it was. -/
theorem run_assign (value : Value) (location : Location) (item : Value) :
    (assign location item).run value =
      match value.set location item with
      | .ok changed => ⟨.ok (), changed, []⟩
      | .error e => ⟨.error e, value, []⟩ := by
  obtain rfl | ⟨front, step, rfl⟩ := List.eq_nil_or_concat' location
  · rfl
  · rw [assign, set_concat, List.dropLast_concat, List.getLast?_concat]
    simp only [Action.run_bind, Action.run_state, Action.andThen_ok]
    cases read : value.get front with
    | error e => rfl
    | ok parent =>
      cases replaced : parent.replaceChild step item with
      | error e =>
        simp [Except.bind, replaced]
      | ok changed =>
        obtain ⟨written, write⟩ :=
          exists_write_of_get read (not_str_of_replaceChild replaced) changed
        simp [Except.bind, replaced, write, putAt_of_write write]

/-- Writes at a site, unless there is nothing to write. -/
def writeChosen (item : ReferenceSite → Option Value) (value : Value) (site : ReferenceSite) :
    Except AccessError Value :=
  match item site with
  | some chosen => value.set site.location chosen
  | none => .ok value

namespace Writable

variable {value : Value} {sites order : List ReferenceSite} {site other : ReferenceSite}
  (item : ReferenceSite → Option Value)

theorem perm (writable : value.Writable sites) (perm : sites.Perm order) :
    value.Writable order where
  held site member := writable.held site (perm.mem_iff.mpr member)
  apart := (perm.pairwise_iff fun apart => apart.symm).mp writable.apart

theorem exists_writeChosen (writable : value.Writable (site :: sites)) :
    ∃ changed, writeChosen item value site = .ok changed ∧ changed.Writable sites := by
  unfold writeChosen
  cases item site with
  | none => exact ⟨value, rfl, writable.rest⟩
  | some chosen => exact writable.exists_set chosen

theorem writeChosen_comm (writable : value.Writable (site :: other :: sites)) :
    (writeChosen item value site).bind (writeChosen item · other) =
      (writeChosen item value other).bind (writeChosen item · site) := by
  have apart := (List.pairwise_cons.mp writable.apart).1 other List.mem_cons_self
  obtain ⟨-, old, holds⟩ := writable.held site List.mem_cons_self
  obtain ⟨-, old', holds'⟩ := writable.held other (List.mem_cons_of_mem _ List.mem_cons_self)
  unfold writeChosen
  cases item site with
  | none => exact (bind_pure (writeChosen item value other)).symm
  | some chosen =>
    cases item other with
    | none => exact bind_pure (value.set site.location chosen)
    | some chosen' =>
      obtain ⟨both, after, after'⟩ := holds.set_comm holds' apart chosen chosen'
      exact after.trans after'.symm

theorem exists_foldlM (writable : value.Writable sites) :
    ∃ changed, sites.foldlM (writeChosen item) value = .ok changed := by
  induction sites generalizing value with
  | nil => exact ⟨value, rfl⟩
  | cons site rest ih =>
    obtain ⟨next, written, writable⟩ := writable.exists_writeChosen item
    rw [List.foldlM_cons, written]
    exact ih writable

theorem foldlM_perm (writable : value.Writable sites) (perm : sites.Perm order) :
    sites.foldlM (writeChosen item) value = order.foldlM (writeChosen item) value := by
  induction perm generalizing value with
  | nil => rfl
  | cons site _ ih =>
    obtain ⟨next, written, writable⟩ := writable.exists_writeChosen item
    rw [List.foldlM_cons, List.foldlM_cons, written]
    exact ih writable
  | swap site other rest =>
    have both (a b : ReferenceSite) : (a :: b :: rest).foldlM (writeChosen item) value =
        ((writeChosen item value a).bind (writeChosen item · b)).bind
          (rest.foldlM (writeChosen item) ·) := by
      rw [List.foldlM_cons]
      cases writeChosen item value a with
      | error e => rfl
      | ok next =>
        change (b :: rest).foldlM (writeChosen item) next = _
        rw [List.foldlM_cons]
        rfl
    rw [both, both, writable.writeChosen_comm item]
  | trans front _ ih ih' => exact (ih writable).trans (ih' (writable.perm front))

end Writable

/-- What a write makes of a value: the item is read where it was written, what is read apart from
there is what was read, and all around it lists keep their lengths and objects their keys. -/
structure Rewrites (value : Value) (location : Location) (item changed : Value) : Prop where
  written : value.set location item = .ok changed
  read : changed.get location = .ok item
  apart : ∀ {other part}, Apart location other → value.LeadsTo other part →
    changed.get other = value.get other
  around : ∀ {other part}, ¬ location <+: other → value.LeadsTo other part →
    ∃ kept, changed.get other = .ok kept ∧ kept.SameFrame part

/-- The laws of reading and writing inside a value. -/
structure LensLaws (value : Value) : Prop where
  rewrites : ∀ {location old}, location ≠ [] → value.LeadsTo location old → ∀ item,
    ∃ changed, value.Rewrites location item changed
  restores : ∀ {location old}, location ≠ [] → value.LeadsTo location old →
    value.set location old = .ok value
  commutes : ∀ {location other old old'}, value.LeadsTo location old → value.LeadsTo other old' →
    Apart location other → ∀ item item',
      ∃ both, (value.set location item).bind (·.set other item') = .ok both ∧
        (value.set other item').bind (·.set location item) = .ok both
  /-- In place, a write either comes to the written value or fails and changes nothing. -/
  inPlace : ∀ location item,
    (∃ changed, value.set location item = .ok changed ∧
      (assign location item).run value = ⟨.ok (), changed, []⟩) ∨
    ∃ e, value.set location item = .error e ∧
      (assign location item).run value = ⟨.error e, value, []⟩
  /-- At the sites of a value it does not matter in which order items are written. -/
  anyOrder : value.isWellKeyed = true → ∀ item : ReferenceSite → Option Value,
    ∃ changed, ∀ order : List ReferenceSite, order.Perm value.sites →
      order.foldlM (writeChosen item) value = .ok changed

theorem HoldsAt.exists_rewrites {value old : Value} {location : Location}
    (holds : value.HoldsAt location old) (inside : location ≠ []) (item : Value) :
    ∃ changed, value.Rewrites location item changed := by
  obtain ⟨changed, written, replaces⟩ := holds.exists_write item
  refine ⟨changed, (write_of_ne_nil inside ..).symm.trans written, replaces.held.get, ?_, ?_⟩
  · intro other part apart leads
    rw [leads.read, (replaces.others apart (leadsTo_iff.mp leads)).get]
  · intro other part outside leads
    obtain ⟨kept, there, same⟩ := holds.sameFrame written outside (leadsTo_iff.mp leads)
    exact ⟨kept, there.get, same⟩

theorem lensLaws (value : Value) : value.LensLaws := by
  refine ⟨?_, ?_, ?_, ?_, ?_⟩
  · intro location old inside leads item
    exact (leadsTo_iff.mp leads).exists_rewrites inside item
  · intro location old inside leads
    rw [← write_of_ne_nil inside, (leadsTo_iff.mp leads).write_self]
  · intro location other old old' leads leads' apart item item'
    exact (leadsTo_iff.mp leads).set_comm (leadsTo_iff.mp leads') apart item item'
  · intro location item
    have ran := run_assign value location item
    cases written : value.set location item with
    | ok changed =>
      rw [written] at ran
      exact .inl ⟨changed, rfl, ran⟩
    | error e =>
      rw [written] at ran
      exact .inr ⟨e, rfl, ran⟩
  · intro keyed item
    have writable := writable_sites keyed
    obtain ⟨changed, written⟩ := writable.exists_foldlM item
    exact ⟨changed, fun order perm => (writable.foldlM_perm item perm.symm).symm.trans written⟩

/-- References below a list and beside it. -/
def glow : Value :=
  .object [("layers", .list [.str "\x7bink\x7d", .object [("blur", .str "\x7bsmall\x7d")]]),
    ("color", .str "\x7bink\x7d")]

theorem lensLaws_glow :
    let blur := [.key "layers", .index 1, .key "blur"]
    (∃ changed, glow.Rewrites blur (.int 2) changed ∧
      changed.get [.key "color"] = glow.get [.key "color"]) ∧
    ∃ changed, glow.sites.foldlM (writeChosen fun _ => some .null) glow = .ok changed ∧
      glow.sites.reverse.foldlM (writeChosen fun _ => some .null) glow = .ok changed := by
  intro blur
  have second {first item : Value} : [first, item][1]? = some item := rfl
  have leads : glow.LeadsTo blur (.str "\x7bsmall\x7d") :=
    leadsTo_iff.mpr (.field rfl (.item second (.field rfl (.here _))))
  have beside : glow.LeadsTo [.key "color"] (.str "\x7bink\x7d") :=
    leadsTo_iff.mpr (.field rfl (.here _))
  constructor
  · obtain ⟨changed, rewrites⟩ := (lensLaws glow).rewrites (by decide) leads (.int 2)
    exact ⟨changed, rewrites, rewrites.apart (apart_cons_iff.mpr nofun) beside⟩
  · obtain ⟨changed, written⟩ := (lensLaws glow).anyOrder (by decide) fun _ => some .null
    exact ⟨changed, written _ (.refl _), written _ glow.sites.reverse_perm⟩

end DesignTokens.Value
