import DesignTokens.Calendar
import DesignTokens.Value

/-! What a setting can be given as: the data of a settings file, among which are bytes,
days, moments, pairs and sets, and whose mappings have keys of many kinds. -/
namespace DesignTokens

inductive Datum where
  | null
  | bool (b : Bool)
  | int (n : Int)
  | float (x : Binary64)
  /-- What is no number. Two of these are the same if they carry the same mark. -/
  | notANumber (mark : Nat)
  | str (s : String)
  | bytes (content : List UInt8)
  | date (d : Date)
  | moment (m : Moment)
  | pair (first second : Datum)
  | list (items : List Datum)
  | set (members : List Datum)
  | mapping (entries : List (Datum × Datum))
  /-- A list or a mapping inside of itself, where it comes again. -/
  | again (isMapping : Bool)

namespace Datum

instance : Inhabited Datum := ⟨.null⟩

def ofFloat (mark : Nat) (x : Binary64) : Datum := if x.isNaN then notANumber mark else float x

mutual

def ofValue : Value → Datum
  | .null => null
  | .bool b => bool b
  | .int n => int n
  | .float x => ofFloat 0 x
  | .str s => str s
  | .list items => list (ofItems items)
  | .object fields => mapping (ofFields fields)

def ofItems : List Value → List Datum
  | [] => []
  | item :: rest => ofValue item :: ofItems rest

def ofFields : Entries Value → List (Datum × Datum)
  | [] => []
  | (key, item) :: rest => (str key, ofValue item) :: ofFields rest

end

def ofTexts (texts : List String) : Datum := list (texts.map str)

/-- Whether the datum is just this text. -/
def isText (text : String) : Datum → Bool
  | str s => s = text
  | _ => false

/-- Nothing, zero, and empty text, bytes or containers count as false. -/
def isTruthy : Datum → Bool
  | null => false
  | bool b => b
  | int n => n ≠ 0
  | float x => !x.isZero
  | str s => s ≠ ""
  | bytes content => !content.isEmpty
  | list items => !items.isEmpty
  | set members => !members.isEmpty
  | mapping entries => !entries.isEmpty
  | notANumber _ | date _ | moment _ | pair .. | again _ => true

end Datum

end DesignTokens
