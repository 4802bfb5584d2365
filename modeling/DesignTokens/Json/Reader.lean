import DesignTokens.Json.Lexeme
import DesignTokens.Numeral

/-! Reading JSON text. The lexemes are taken one by one against a stack of the
lists and objects that are open, so the reader recurses on the lexemes alone. A
key that comes twice keeps its first place and its last value. A reader may refuse
integers from some size on. -/
namespace DesignTokens.Json

structure Failure where
  fault : Fault
  line : Nat
deriving DecidableEq

inductive Open where
  /-- The items so far, the last one first. -/
  | list (items : List Value)
  | object (fields : Entries Value) (name : String)

/-- What may come next. -/
inductive Need where
  | value
  | firstItem
  | name (fields : Entries Value) (first : Bool)
  | colon (fields : Entries Value) (name : String)
  | afterValue (value : Value)

structure State where
  stack : List Open
  need : Need

def isTooLarge (bound : Option Nat) : Value → Bool
  | .int n => bound.any (· ≤ n.natAbs)
  | _ => false

def State.take (bound : Option Nat) (state : State) (token : Token) : Except Fault State :=
  let ⟨stack, need⟩ := state
  match need, token with
  | .firstItem, .endList => .ok ⟨stack.drop 1, .afterValue (.list [])⟩
  | .value, .string s | .firstItem, .string s => .ok ⟨stack, .afterValue (.str s)⟩
  | .value, .scalar v | .firstItem, .scalar v =>
    if isTooLarge bound v then .error .longInteger else .ok ⟨stack, .afterValue v⟩
  | .value, .beginList | .firstItem, .beginList => .ok ⟨.list [] :: stack, .firstItem⟩
  | .value, .beginObject | .firstItem, .beginObject => .ok ⟨stack, .name [] true⟩
  | .value, .brokenString f | .firstItem, .brokenString f => .error f
  | .value, _ | .firstItem, _ => .error .expectedValue
  | .name fields _, .string s => .ok ⟨stack, .colon fields s⟩
  | .name fields true, .endObject => .ok ⟨stack, .afterValue (.object fields)⟩
  | .name _ _, .brokenString f => .error f
  | .name _ _, _ => .error .expectedName
  | .colon fields s, .colon => .ok ⟨.object fields s :: stack, .value⟩
  | .colon _ _, _ => .error .expectedColon
  | .afterValue v, token =>
    match stack, token with
    | [], _ => .error .extraData
    | .list items :: stack, .comma => .ok ⟨.list (v :: items) :: stack, .value⟩
    | .list items :: stack, .endList => .ok ⟨stack, .afterValue (.list (v :: items).reverse)⟩
    | .object fields s :: stack, .comma => .ok ⟨stack, .name (fields.put s v) false⟩
    | .object fields s :: stack, .endObject => .ok ⟨stack, .afterValue (.object (fields.put s v))⟩
    | _ :: _, _ => .error .expectedComma

/-- What an end of the text means. -/
def State.finish : State → Except Fault Value
  | ⟨[], .afterValue v⟩ => .ok v
  | ⟨_ :: _, .afterValue _⟩ => .error .expectedComma
  | ⟨_, .value⟩ | ⟨_, .firstItem⟩ => .error .expectedValue
  | ⟨_, .name _ _⟩ => .error .expectedName
  | ⟨_, .colon _ _⟩ => .error .expectedColon

def read (bound : Option Nat) (lastLine : Nat) : State → List Lexeme → Except Failure Value
  | state, [] => state.finish.mapError (⟨·, lastLine⟩)
  | state, lexeme :: rest =>
    match state.take bound lexeme.token with
    | .ok state => read bound lastLine state rest
    | .error fault => .error ⟨fault, lexeme.line⟩

/-- Reads a text in which every integer stays below the bound. -/
def parseWithin (bound : Option Nat) (text : List Char) : Except Failure Value :=
  if text.head? = some '\ufeff' then .error ⟨.byteOrderMark, 1⟩
  else
    let (lexemes, lastLine) := lexemes 1 text
    read bound lastLine ⟨[], .value⟩ lexemes

/-- Reads a text in which no integer has too many digits. -/
def parse (text : List Char) : Except Failure Value := parseWithin (some Numeral.bound) text

end DesignTokens.Json
