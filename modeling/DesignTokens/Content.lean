import DesignTokens.Reference

/-! What the value of a token amounts to: data of its own, one reference, or data
with references inside. -/
namespace DesignTokens

inductive Content where
  | concrete (value : Value)
  | alias (reference : Reference)
  | composite (value : Value) (first : ReferenceSite) (rest : List ReferenceSite)

/-- The extension in which design tools record that a token stands for another. -/
def aliasExtension : String := "com.figma.aliasData"

def aliasTarget? (extensions : Entries Value) : Option String :=
  match (extensions.lookup aliasExtension).bind (·.field? "targetVariableName") with
  | some (.str target) => if target = "" then none else some target
  | _ => none

def sortedPaths (paths : List String) : List String :=
  (paths.mergeSort fun p q => decide (p ≤ q)).eraseDups

namespace Content

/-- A reference in the value itself comes before one in the extensions. -/
def classify (value : Value) (extensions : Entries Value) : Content :=
  match Reference.ofValue? value with
  | some reference => .alias reference
  | none =>
    match value.sites with
    | [] =>
      match aliasTarget? extensions with
      | some target => .alias (.ofPath target)
      | none => .concrete value
    | first :: rest => .composite value first rest

/-- The paths referred to, each once, in rising order. -/
def targets : Content → List String
  | .concrete _ => []
  | .alias reference => [reference.path]
  | .composite _ first rest => sortedPaths ((first :: rest).map (·.reference.path))

def sites : Content → List ReferenceSite
  | .composite _ first rest => first :: rest
  | _ => []

def isReferring : Content → Bool
  | .concrete _ => false
  | _ => true

end Content

end DesignTokens
