import DesignTokens.Content
import DesignTokens.Tree

/-! The token graph: every token of some trees under its path, with what its
value refers to. A later tree replaces a token at the same path and leaves it in
its place. -/
namespace DesignTokens

structure Node where
  token : Token
  content : Content

structure Graph where
  nodes : Entries Node
  skipped : List SkippedNode
  distinct : nodes.keys.Nodup

namespace Graph

def empty : Graph := ⟨[], [], List.nodup_nil⟩

def contentOf (settings : Settings) (token : Token) : Content :=
  .classify token.value (if settings.aliasExtension.isTruthy then token.extensions else [])

def add (settings : Settings) (graph : Graph) : Tree.Visit → Graph
  | .token token =>
    { graph with
      nodes := graph.nodes.put token.path ⟨token, contentOf settings token⟩
      distinct := Entries.nodup_keys_put graph.distinct .. }
  | .skipped node => { graph with skipped := graph.skipped ++ [node] }

def ofVisits (settings : Settings) (visits : List Tree.Visit) : Graph :=
  visits.foldl (add settings) empty

def build (settings : Settings) (trees : List Value) : Graph :=
  ofVisits settings (trees.flatMap (Tree.walk settings))

def size (graph : Graph) : Nat := graph.nodes.length

def paths (graph : Graph) : List String := graph.nodes.keys

def has (graph : Graph) (path : String) : Bool := graph.nodes.has path

def node? (graph : Graph) (path : String) : Option Node := graph.nodes.lookup path

def tokens (graph : Graph) : Entries Token := graph.nodes.map fun (path, node) => (path, node.token)

def contents (graph : Graph) : Entries Content :=
  graph.nodes.map fun (path, node) => (path, node.content)

/-- The tokens that refer to others, with the paths they refer to. -/
def edges (graph : Graph) : Entries (List String) :=
  graph.nodes.filterMap fun (path, node) =>
    if node.content.targets = [] then none else some (path, node.content.targets)

def referencesOf (graph : Graph) (path : String) : List String :=
  (graph.edges.lookup path).getD []

/-- The paths referred to that are no tokens, with the tokens that refer to them. -/
def dangling (graph : Graph) : Entries (List String) :=
  (graph.edges.flatMap fun (source, targets) =>
    (targets.filter (!graph.has ·)).map fun target => (target, source)).foldl
    (fun groups pair => Entries.gather pair.1 pair.2 groups) []

def referringCount (graph : Graph) : Nat :=
  (graph.nodes.filter fun (_, node) => node.content.isReferring).length

/-- What building a graph reports: skipped nodes and replaced tokens as they are
met, and the totals. -/
def visitJournal (settings : Settings) : Graph → List Tree.Visit → Journal
  | graph, [] => [.graphBuilt graph.size graph.referringCount graph.skipped.length]
  | graph, visit :: rest =>
    (match visit with
      | .token token => if graph.has token.path then [.tokenRedeclared token.path] else []
      | .skipped node => [.nodeSkipped node.path node.reason]) ++
      visitJournal settings (graph.add settings visit) rest

def buildJournal (settings : Settings) (trees : List Value) : Journal :=
  visitJournal settings empty (trees.flatMap (Tree.walk settings))

end Graph

end DesignTokens
