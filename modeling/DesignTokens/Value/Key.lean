import DesignTokens.Json.Printer

/-! The key under which values are compared: text stands for itself, and any other
value for its JSON text with the keys of objects in rising order. A value that cannot
be written has none. -/
namespace DesignTokens.Value

def sortedFields (fields : Entries Value) : Entries Value :=
  fields.mergeSort fun a b => decide (a.1 ≤ b.1)

mutual

def canonical : Value → Value
  | .list items => .list (canonicalItems items)
  | .object fields => .object (sortedFields (canonicalFields fields))
  | other => other

def canonicalItems : List Value → List Value
  | [] => []
  | item :: rest => canonical item :: canonicalItems rest

def canonicalFields : Entries Value → Entries Value
  | [] => []
  | (key, item) :: rest => (key, canonical item) :: canonicalFields rest

end

def key (room : Nat) : Value → Except Json.Unwritable String
  | .str s => .ok s
  | other => Json.print room none other.canonical

end DesignTokens.Value
