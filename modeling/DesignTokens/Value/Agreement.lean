import DesignTokens.Value

/-! Agreement of values: equality as data, which looks past the order of keys
and past the difference between a truth value, an integer and a decimal number
of the same size. -/
namespace DesignTokens.Value

inductive Number where
  | int (n : Int)
  | float (x : Binary64)

def number? : Value → Option Number
  | .bool b => some (.int (if b then 1 else 0))
  | .int n => some (.int n)
  | .float x => some (.float x)
  | _ => none

def Number.agrees : Number → Number → Bool
  | .int m, .int n => m = n
  | .int m, .float x | .float x, .int m => x.agreesWithInt m
  | .float x, .float y => x.agrees y

theorem Number.agrees_refl (n : Number) : n.agrees n = true := by
  cases n with
  | int n => simp [agrees]
  | float x => exact x.agrees_refl

/-- Agreement of two values of which neither is a list or an object. -/
def agreesPlain (v w : Value) : Bool :=
  match v.number?, w.number? with
  | some m, some n => m.agrees n
  | _, _ => v = w

mutual

/-- Objects agree when they have equally many keys and agree at each. -/
def agrees : Value → Value → Bool
  | .list xs, .list ys => agreesItems xs ys
  | .object xs, .object ys => xs.length = ys.length && agreesFields xs ys
  | v, w => agreesPlain v w

def agreesItems : List Value → List Value → Bool
  | [], [] => true
  | x :: xs, y :: ys => agrees x y && agreesItems xs ys
  | _, _ => false

def agreesFields : Entries Value → Entries Value → Bool
  | [], _ => true
  | (k, x) :: xs, ys =>
    (match ys.lookup k with
      | some y => agrees x y
      | none => false) && agreesFields xs ys

end

end DesignTokens.Value
