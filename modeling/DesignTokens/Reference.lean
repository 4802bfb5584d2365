import DesignTokens.Value.Location

/-! References: text that consists of a token path in braces. -/
namespace DesignTokens

structure Reference where
  path : String
  /-- The text that was written. -/
  raw : String
deriving DecidableEq

def isBrace (c : Char) : Bool := c = '{' ∨ c = '}'

/-- The path between the braces. One line break may follow the closing brace. -/
def bracedPath? : List Char → Option (List Char)
  | '{' :: rest =>
    let path := rest.takeWhile (!isBrace ·)
    let tail := rest.dropWhile (!isBrace ·)
    if path ≠ [] ∧ (tail = ['}'] ∨ tail = ['}', '\n']) then some path else none
  | _ => none

namespace Reference

def parse? (text : String) : Option Reference :=
  (bracedPath? text.toList).map fun path => ⟨String.ofList path, text⟩

def ofPath (path : String) : Reference := ⟨path, String.ofList ('{' :: path.toList ++ ['}'])⟩

def ofValue? : Value → Option Reference
  | .str text => parse? text
  | _ => none

end Reference

/-- A reference found inside a value. -/
structure ReferenceSite where
  location : Location
  reference : Reference
deriving DecidableEq

def ReferenceSite.under (step : Step) (site : ReferenceSite) : ReferenceSite :=
  { site with location := step :: site.location }

namespace Value

mutual

/-- The references of a value and of all it holds, in the order they are written. -/
def references : Value → List ReferenceSite
  | .list items => itemReferences 0 items
  | .object fields => fieldReferences fields
  | value => ((Reference.ofValue? value).map (⟨[], ·⟩)).toList

def itemReferences (position : Nat) : List Value → List ReferenceSite
  | [] => []
  | item :: rest =>
    (references item).map (·.under (.index position)) ++ itemReferences (position + 1) rest

def fieldReferences : Entries Value → List ReferenceSite
  | [] => []
  | (key, item) :: rest =>
    (references item).map (·.under (.key key)) ++ fieldReferences rest

end

/-- A part of a value, with the location that leads to it. -/
structure Part where
  location : Location
  value : Value
deriving DecidableEq

def itemParts (location : Location) (position : Nat) : List Value → List Part
  | [] => []
  | item :: rest => ⟨location ++ [.index position], item⟩ :: itemParts location (position + 1) rest

def fieldParts (location : Location) : Entries Value → List Part
  | [] => []
  | (key, item) :: rest => ⟨location ++ [.key key], item⟩ :: fieldParts location rest

mutual

def partCount : Value → Nat
  | .list items => 1 + itemPartCount items
  | .object fields => 1 + fieldPartCount fields
  | _ => 1

def itemPartCount : List Value → Nat
  | [] => 0
  | item :: rest => partCount item + itemPartCount rest

def fieldPartCount : Entries Value → Nat
  | [] => 0
  | (_, item) :: rest => partCount item + fieldPartCount rest

end

theorem partCount_pos (value : Value) : 0 < value.partCount := by
  cases value with
  | list items => exact Nat.lt_add_right _ Nat.one_pos
  | object fields => exact Nat.lt_add_right _ Nat.one_pos
  | _ => exact Nat.one_pos

def remaining : List Part → Nat
  | [] => 0
  | part :: rest => part.value.partCount + remaining rest

theorem remaining_append (parts rest : List Part) :
    remaining (parts ++ rest) = remaining parts + remaining rest := by
  induction parts with
  | nil => simp [remaining]
  | cons part others ih => simp [remaining, ih, Nat.add_assoc]

private theorem remaining_itemParts (location : Location) (position : Nat) (items : List Value) :
    remaining (itemParts location position items) = itemPartCount items := by
  induction items generalizing position with
  | nil => rfl
  | cons item rest ih => simp [itemParts, remaining, itemPartCount, ih]

private theorem remaining_fieldParts (location : Location) (fields : Entries Value) :
    remaining (fieldParts location fields) = fieldPartCount fields := by
  induction fields with
  | nil => rfl
  | cons field rest ih => simp [fieldParts, remaining, fieldPartCount, ih]

/-- What a list or an object holds comes before whatever waits outside it. Concrete values are
scanned by computation, hence the transparency. -/
@[semireducible] def scan (stack : List Part) : List ReferenceSite :=
  match stack with
  | [] => []
  | ⟨location, .list items⟩ :: outer => scan (itemParts location 0 items ++ outer)
  | ⟨location, .object fields⟩ :: outer => scan (fieldParts location fields ++ outer)
  | ⟨location, value⟩ :: outer =>
    match Reference.ofValue? value with
    | some reference =>
      if location = [] then scan outer else ⟨location, reference⟩ :: scan outer
    | none => scan outer
termination_by remaining stack
decreasing_by
  all_goals
    simp [remaining, partCount, partCount_pos, remaining_append, remaining_itemParts,
      remaining_fieldParts]

/-- The references strictly inside a value. -/
def sites (value : Value) : List ReferenceSite := scan [⟨[], value⟩]

end Value

end DesignTokens
