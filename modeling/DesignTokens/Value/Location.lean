import DesignTokens.Value

/-! Places inside a value. A step names a key of an object or a position in a
list, positions below zero counting from the end. -/
namespace DesignTokens

inductive Step where
  | key (name : String)
  | index (i : Int)
deriving DecidableEq

abbrev Location := List Step

inductive AccessError where
  | indexOutOfRange
  | noSuchKey
  | notAddressable
  | emptyLocation
deriving DecidableEq

/-- The position meant in a sequence of that length. -/
def position? (length : Nat) (i : Int) : Option Nat :=
  if 0 ≤ i then
    if i.toNat < length then some i.toNat else none
  else if (-i).toNat ≤ length then some (length - (-i).toNat)
  else none

@[simp] theorem position?_natCast {length n : Nat} (h : n < length) :
    position? length n = some n := by
  simp [position?, h]

namespace Value

/-- Texts may be read by position, one character at a time. -/
def child : Value → Step → Except AccessError Value
  | .list items, .index i =>
    match position? items.length i with
    | some n => (items[n]?).elim (.error .indexOutOfRange) .ok
    | none => .error .indexOutOfRange
  | .object fields, .key name => (fields.lookup name).elim (.error .noSuchKey) .ok
  | .object _, .index _ => .error .noSuchKey
  | .str s, .index i =>
    match (position? s.length i).bind (s.toList[·]?) with
    | some c => .ok (.str (String.singleton c))
    | none => .error .indexOutOfRange
  | _, _ => .error .notAddressable

def get (value : Value) : Location → Except AccessError Value
  | [] => .ok value
  | step :: rest => do (← value.child step).get rest

/-- A key that an object lacks is added as its last one. Where keys may be of any kind an index
would be added like that too, without a fault; here it is refused, as keys are texts. -/
def replaceChild : Value → Step → Value → Except AccessError Value
  | .list items, .index i, item =>
    match position? items.length i with
    | some n => .ok (.list (items.set n item))
    | none => .error .indexOutOfRange
  | .object fields, .key name, item => .ok (.object (Entries.put name item fields))
  | _, _, _ => .error .notAddressable

def set (value : Value) : Location → Value → Except AccessError Value
  | [], _ => .error .emptyLocation
  | [step], item => value.replaceChild step item
  | step :: next :: rest, item => do
    value.replaceChild step (← (← value.child step).set (next :: rest) item)

theorem get_append (value : Value) (front back : Location) :
    value.get (front ++ back) = (value.get front).bind (·.get back) := by
  induction front generalizing value with
  | nil => rfl
  | cons step rest ih =>
    simp only [List.cons_append, get, bind, Except.bind]
    cases value.child step with
    | error e => rfl
    | ok c => exact ih c

end Value

end DesignTokens
