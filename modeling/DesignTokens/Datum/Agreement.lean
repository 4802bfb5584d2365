import DesignTokens.Datum
import DesignTokens.Value.Agreement

/-! Sets of data. What can change cannot be a member, and members that agree are one. -/
namespace DesignTokens.Datum

/-- Whether the datum can be a member of a set or the key of a mapping. -/
def isMember : Datum → Bool
  | list _ | set _ | mapping _ | again _ => false
  | pair first second => first.isMember && second.isMember
  | _ => true

def number? : Datum → Option Value.Number
  | bool b => some (.int (if b then 1 else 0))
  | int n => some (.int n)
  | float x => some (.float x)
  | _ => none

/-- Agreement of two data that have no parts. -/
def agreesPlain (d e : Datum) : Bool :=
  match d.number?, e.number? with
  | some m, some n => m.agrees n
  | _, _ =>
    match d, e with
    | null, null => true
    | notANumber m, notANumber n => m = n
    | str s, str t => s = t
    | bytes a, bytes b => a = b
    | date a, date b => a = b
    | moment a, moment b => a.agrees b
    | _, _ => false

/-- Agreement of possible members: equality as data, numbers of different kinds
agreeing when they are of the same size. -/
def agrees : Datum → Datum → Bool
  | pair a b, pair c d => a.agrees c && b.agrees d
  | d, e => d.agreesPlain e

def withoutRepeats (members : List Datum) : List Datum :=
  members.foldl (fun kept d => if kept.any d.agrees then kept else kept ++ [d]) []

/-- The members of a set that is given as such, as a list or a pair, as the keys of a
mapping, as the characters of a text, or as bytes. -/
def members? : Datum → Option (List Datum)
  | set members => some members
  | list items => if items.all isMember then some (withoutRepeats items) else none
  | pair first second =>
    if first.isMember && second.isMember then some (withoutRepeats [first, second]) else none
  | mapping entries => some (entries.map Prod.fst)
  | str s => some (withoutRepeats (s.toList.map fun c => str (String.singleton c)))
  | bytes content => some (withoutRepeats (content.map fun byte => int byte.toNat))
  | _ => none

/-- Keys that agree are one key, with its first spelling and its last item. -/
def putEntry {α : Type} (key : Datum) (item : α) : List (Datum × α) → List (Datum × α)
  | [] => [(key, item)]
  | (other, old) :: rest =>
    if other.agrees key then (other, item) :: rest else (other, old) :: putEntry key item rest

end DesignTokens.Datum
