import DesignTokens.Report
import DesignTokens.TokenFile

/-! Sessions: the settings of one run, and once a graph is built a resolver for it.
A run builds the graph of some trees, resolves every token, and gathers what it
finds into a report. -/
namespace DesignTokens

structure Session where
  settings : Settings
  resolver : Option Resolver := none

/-- What needs a graph. -/
inductive Request where
  | resolve
  | findDuplicates
deriving DecidableEq

def Request.name : Request → String
  | resolve => "resolve"
  | findDuplicates => "find_duplicates"

inductive SessionError where
  | notBuilt (request : Request)
  | typesNotASet
  | resolver (error : ResolverError)
  | unwritable (fault : Json.Unwritable)
  | file (error : TokenFileError)

namespace SessionError

def notBuiltMessage (request : Request) : String :=
  s!"build() must be called before {request.name}()"

def ofDuplicate : Duplicate.Error → SessionError
  | .typesNotASet => typesNotASet
  | .resolver error => resolver error
  | .unwritable fault => unwritable fault

end SessionError

namespace Session

abbrev Running := Action Session SessionError

def graph (session : Session) : Graph := (session.resolver.map Resolver.graph).getD .empty

/-- Runs with the resolver of the session and keeps what becomes of it. -/
def withResolver {ε α : Type} (request : Request) (wrap : ε → SessionError)
    (action : Action Resolver ε α) : Running α := do
  let session ← Action.state
  match session.resolver with
  | none => throw (.notBuilt request)
  | some resolver =>
    let ran := action.run resolver
    Action.put { session with resolver := some ran.state }
    Action.absorb wrap ran

def build (trees : List Value) : Running Graph := do
  let session ← Action.state
  let settings := session.settings
  let graph := Graph.build settings trees
  Action.report (Graph.buildJournal settings trees)
  Action.put { session with resolver := some {
    graph
    memoize := settings.memoize.isTruthy
    verify := settings.verify.isTruthy } }
  return graph

def resolve (path : String) : Running Resolution :=
  withResolver .resolve .resolver (Resolver.resolve path)

/-- The tokens of a tree, or without one those of the graph. -/
def candidates (session : Session) : Option Value → List Token
  | some tree => Tree.tokens session.settings tree
  | none => session.graph.tokens.items

def scopeJournal (session : Session) : Option Value → Journal
  | some tree => Tree.journal session.settings tree
  | none => []

/-- Types that count as false leave the choice to the settings. -/
def typesToCompare (session : Session) (types : Option Datum) : Datum :=
  (types.filter Datum.isTruthy).getD session.settings.duplicateTypes

def findDuplicates (room : Nat) (scope : Option Value) (types : Option Datum) :
    Running (List DuplicateGroup) := do
  let session ← Action.state
  if session.resolver.isNone then throw (.notBuilt .findDuplicates)
  Action.report (session.scopeJournal scope)
  withResolver .findDuplicates SessionError.ofDuplicate
    (Duplicate.find room (session.candidates scope) (session.typesToCompare types))

def unresolvedEvents (results : Entries Resolution) : Journal :=
  (results.items.filter (!·.isResolved)).map fun outcome =>
    .tokenUnresolved outcome.path outcome.status

/-- The unknown types of all trees, in the order in which they are met. -/
def unknownTypes (settings : Settings) (trees : List Value) : Entries Int :=
  let tally := (trees.flatMap (Tree.unknownTypes settings)).foldl
    (fun tally (type, amount) => Entries.count type amount tally) []
  tally.map fun (type, count) => (type, (count : Int))

def run (room : Nat) (now : Timestamp) (trees : List Value) (sources : List String)
    (scope : Option Value) : Running Report := do
  let settings := (← Action.state).settings
  Action.report [.sessionStarted trees.length]
  let graph ← build trees
  Action.report (.graphReady graph.size graph.referringCount ::
    graph.skipped.map fun node => .skippedListed node.path node.reason)
  let results ← withResolver .resolve .resolver Resolver.resolveAll
  Action.report (unresolvedEvents results ++ [.tokensReady])
  let cycles := graph.cycles.map CycleWarning.ofChain
  Action.report (graph.cycleJournal ++ cycles.map fun warning => .cycleWarned warning.message)
  let duplicates ← findDuplicates room scope none
  Action.report (.duplicatesReady duplicates.length :: trees.flatMap (Tree.journal settings))
  return {
    sources, results, cycles, duplicates
    skipped := graph.skipped
    dangling := graph.dangling
    unknownTypes := unknownTypes settings trees
    generatedAt := now }

/-- An empty path is no path. -/
def loadScope (files : Files) (scope : Option String) : Running (Option Value) :=
  match scope.filter (· ≠ "") with
  | some path => return some (← Action.ofExcept .file (TokenFile.load files path))
  | none => return none

def loadTrees (files : Files) (paths : List String) : Running (List Value) := do
  Action.absorb .file ((TokenFile.loadAll files paths : Action Unit _ _).run ())

def runFiles (room : Nat) (now : Timestamp) (files : Files) (paths : List String)
    (scope : Option String) : Running Report := do
  let trees ← loadTrees files paths
  run room now trees paths (← loadScope files scope)

end Session

end DesignTokens
