import DesignTokens.Event
import DesignTokens.Settings

/-! Token trees: nested groups whose leaves are tokens. Every child of a group is
a leaf, a group or malformed, and keys that start with a dollar sign are no
children at all. -/
namespace DesignTokens

structure Token where
  path : String
  type : String
  value : Value
  extensions : Entries Value
  description : Option String
deriving DecidableEq

/-- A node of a tree that is neither a token nor a group. -/
structure SkippedNode where
  path : String
  reason : String
deriving DecidableEq

inductive NodeKind where
  | leaf
  | group
  | malformed (reason : String)
deriving DecidableEq

def NodeKind.name : NodeKind → String
  | leaf => "leaf"
  | group => "group"
  | malformed _ => "malformed"

def joinPath (segments : List String) : String := String.intercalate "/" segments

/-- The parts between the slashes, at least one. -/
def splitAtSlashes : List Char → List (List Char)
  | [] => [[]]
  | c :: rest =>
    if c = '/' then [] :: splitAtSlashes rest
    else
      match splitAtSlashes rest with
      | [] => [[c]]
      | first :: others => (c :: first) :: others

def Token.segments (token : Token) : List String :=
  (splitAtSlashes token.path.toList).map String.ofList

def isReserved (key : String) : Bool := key.toList.head? = some '$'

namespace Tree

/-- The name of a kind of value in a reason. -/
def kindName : Value → String
  | .null => "NoneType"
  | .bool _ => "bool"
  | .int _ => "int"
  | .float _ => "float"
  | .str _ => "str"
  | .list _ => "list"
  | .object _ => "dict"

def classifyFields (settings : Settings) (fields : Entries Value) : NodeKind :=
  match fields.lookup settings.typeKey with
  | none => .group
  | some (.str _) =>
    if Entries.has fields settings.valueKey then .leaf
    else .malformed (settings.typeKey ++ " without " ++ settings.valueKey)
  | some _ => .malformed (settings.typeKey ++ " must be a string")

def classify (settings : Settings) : Value → NodeKind
  | .list _ => .malformed "arrays are not token groups"
  | .object fields => classifyFields settings fields
  | other => .malformed ("unexpected " ++ kindName other ++ " in group position")

def textOf : Option Value → Option String
  | some (.str s) => some s
  | _ => none

def fieldsOf : Option Value → Entries Value
  | some (.object fields) => fields
  | _ => []

def tokenAt (settings : Settings) (segments : List String) (fields : Entries Value) : Token where
  path := joinPath segments
  type := (textOf (fields.lookup settings.typeKey)).getD ""
  value := (fields.lookup settings.valueKey).getD .null
  extensions := fieldsOf (fields.lookup "$extensions")
  description := textOf (fields.lookup "$description")

/-- What a walk meets. -/
inductive Visit where
  | token (token : Token)
  | skipped (node : SkippedNode)
deriving DecidableEq

mutual

def visitsBelow (settings : Settings) (above : List String) : Entries Value → List Visit
  | [] => []
  | (key, child) :: rest =>
    (if isReserved key then [] else visitsOf settings (above ++ [key]) child) ++
      visitsBelow settings above rest

def visitsOf (settings : Settings) (segments : List String) : Value → List Visit
  | .object fields =>
    match classifyFields settings fields with
    | .leaf => [.token (tokenAt settings segments fields)]
    | .group => visitsBelow settings segments fields
    | .malformed reason => [.skipped ⟨joinPath segments, reason⟩]
  | other =>
    match classify settings other with
    | .malformed reason => [.skipped ⟨joinPath segments, reason⟩]
    | _ => []

end

/-- A group that is being walked, with the children still to come. -/
structure OpenGroup where
  segments : List String
  children : Entries Value

mutual

def weight : Value → Nat
  | .object fields => fieldsWeight fields
  | _ => 0

def fieldsWeight : Entries Value → Nat
  | [] => 1
  | (_, child) :: rest => 1 + weight child + fieldsWeight rest

end

def pending : List OpenGroup → Nat
  | [] => 0
  | group :: outer => fieldsWeight group.children + pending outer

/-- The children of the innermost open group come first. -/
def walkStack (settings : Settings) (stack : List OpenGroup) : List Visit :=
  match stack with
  | [] => []
  | ⟨_, []⟩ :: outer => walkStack settings outer
  | ⟨above, (key, child) :: rest⟩ :: outer =>
    if isReserved key then walkStack settings (⟨above, rest⟩ :: outer)
    else
      match child, classify settings child with
      | .object fields, .leaf =>
        .token (tokenAt settings (above ++ [key]) fields) ::
          walkStack settings (⟨above, rest⟩ :: outer)
      | .object fields, .group =>
        walkStack settings (⟨above ++ [key], fields⟩ :: ⟨above, rest⟩ :: outer)
      | _, .malformed reason =>
        .skipped ⟨joinPath (above ++ [key]), reason⟩ ::
          walkStack settings (⟨above, rest⟩ :: outer)
      | _, _ => walkStack settings (⟨above, rest⟩ :: outer)
termination_by pending stack
decreasing_by
  all_goals
    simp only [pending, fieldsWeight, weight]
    omega

def rootSkipped : SkippedNode := ⟨"", "token tree root must be a mapping"⟩

def walk (settings : Settings) : Value → List Visit
  | .object fields => walkStack settings [⟨[], fields⟩]
  | _ => [.skipped rootSkipped]

def Visit.token? : Visit → Option Token
  | .token t => some t
  | .skipped _ => none

def Visit.skipped? : Visit → Option SkippedNode
  | .token _ => none
  | .skipped node => some node

def tokens (settings : Settings) (tree : Value) : List Token :=
  (walk settings tree).filterMap Visit.token?

def skippedNodes (settings : Settings) (tree : Value) : List SkippedNode :=
  (walk settings tree).filterMap Visit.skipped?

def journal (settings : Settings) (tree : Value) : Journal :=
  (skippedNodes settings tree).map fun node => .nodeSkipped node.path node.reason

/-- How many leaves there are of each type that the settings do not know. -/
def unknownTypes (settings : Settings) (tree : Value) : Entries Nat :=
  ((tokens settings tree).filter fun token => !settings.knows token.type).foldl
    (fun tally token => Entries.count token.type 1 tally) []

def nodeAt? : Value → List String → Option Value
  | node, [] => some node
  | node, key :: rest => (node.field? key).bind (nodeAt? · rest)

/-- The leaf reached by the segments, whatever the nodes on the way are. -/
def leafAt? (settings : Settings) (tree : Value) (segments : List String) : Option Value :=
  (nodeAt? tree segments).filter fun node => classify settings node = .leaf

end Tree

end DesignTokens
