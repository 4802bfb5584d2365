import DesignTokens.Proofs.Report.Coherent
import DesignTokens.Proofs.Session.Loading
import Mathlib.Data.List.Induction

/-! Calls in any order on one session. Nothing that was done before shows in what a call comes
to but the trees that were built last. -/
namespace DesignTokens.Session

inductive Call where
  | build (trees : List Value)
  | resolve (path : String)
  | findDuplicates (room : Nat) (scope : Option Value) (types : Option Datum)
  | run (room : Nat) (now : Timestamp) (trees : List Value) (sources : List String)
    (scope : Option Value)
  | runFiles (room : Nat) (now : Timestamp) (files : Files) (paths : List String)
    (scope : Option String)

inductive Reply where
  | graph (graph : Graph)
  | resolution (outcome : Resolution)
  | duplicates (groups : List DuplicateGroup)
  | report (report : Report)

def Call.perform : Call → Running Reply
  | .build trees => do return .graph (← Session.build trees)
  | .resolve path => do return .resolution (← Session.resolve path)
  | .findDuplicates room scope types => do
    return .duplicates (← Session.findDuplicates room scope types)
  | .run room now trees sources scope => do
    return .report (← Session.run room now trees sources scope)
  | .runFiles room now files paths scope => do
    return .report (← Session.runFiles room now files paths scope)

/-- What a call comes to on a session. -/
def Call.replyOn (session : Session) (call : Call) : Except SessionError Reply :=
  (call.perform.run session).result

/-- What some calls leave of a session, a failed one holding up none after it. -/
def afterAll (session : Session) (calls : List Call) : Session :=
  calls.foldl (fun session call => (call.perform.run session).state) session

/-- The trees that a call builds the graph of. A run of files builds none unless all of them
can be loaded. -/
def Call.builds : Call → Option (List Value)
  | .build trees => some trees
  | .run _ _ trees _ _ => some trees
  | .runFiles _ _ files paths scope => (loaded files paths scope).toOption.map Prod.fst
  | .resolve _ => none
  | .findDuplicates .. => none

def lastBuilt (calls : List Call) : Option (List Value) := (calls.filterMap Call.builds).getLast?

theorem afterAll_concat (session : Session) (calls : List Call) (call : Call) :
    afterAll session (calls ++ [call]) = (call.perform.run (afterAll session calls)).state :=
  List.foldl_concat ..

theorem lastBuilt_concat (calls : List Call) (call : Call) :
    lastBuilt (calls ++ [call]) = call.builds.or (lastBuilt calls) := by
  rw [lastBuilt, List.filterMap_append, List.getLast?_append]
  cases built : call.builds with
  | none => simp [built, lastBuilt]
  | some trees => simp [built]

/-- A tree that is handed over has unique keys, as every tree that is loaded does. -/
def Call.IsWellKeyed : Call → Prop
  | .build trees => ∀ tree ∈ trees, tree.isWellKeyed = true
  | .run _ _ trees _ _ => ∀ tree ∈ trees, tree.isWellKeyed = true
  | _ => True

/-- A session holds nothing but its settings until it serves the graph of the trees that were
built last. -/
inductive Stands (settings : Settings) : Option (List Value) → Session → Prop where
  | new : Stands settings none { settings }
  | built {trees : List Value} {session : Session} (h : ∀ tree ∈ trees, tree.isWellKeyed = true)
      (serves : session.Serves settings (Graph.build settings trees)) :
      Stands settings (some trees) session

theorem Stands.settings_eq {settings : Settings} {trees : Option (List Value)} {session : Session}
    (stands : Stands settings trees session) : session.settings = settings := by
  cases stands with
  | new => rfl
  | built _ serves => exact serves.settings_eq

/-- The reply that is due when these are the trees that were built last. -/
def Call.due (settings : Settings) (wanted : List Datum) (trees : Option (List Value)) :
    Call → Except SessionError Reply
  | .build trees => .ok (.graph (Graph.build settings trees))
  | .resolve path =>
    match trees with
    | none => .error (.notBuilt .resolve)
    | some trees => .ok (.resolution ((Graph.build settings trees).resolutionOf path))
  | .findDuplicates room scope types =>
    match trees, (typesIn settings types).members? with
    | none, _ => .error (.notBuilt .findDuplicates)
    | some _, none => .error .typesNotASet
    | some trees, some members =>
      ((duplicatesIn room settings (Graph.build settings trees) members scope).mapError
        SessionError.unwritable).map .duplicates
  | .run room now trees sources scope =>
    (reportIn room settings wanted now trees sources scope).map .report
  | .runFiles room now files paths scope =>
    match loaded files paths scope with
    | .error error => .error (.file error)
    | .ok (trees, tree) => (reportIn room settings wanted now trees paths tree).map .report

section

variable {settings : Settings} {wanted : List Datum} {trees : Option (List Value)}
  {session : Session}

theorem Stands.ends_resolve (stands : Stands settings trees session) (path : String) :
    ∃ after, Stands settings trees after ∧
      (Call.resolve path).perform.Ends session ((Call.resolve path).due settings wanted trees)
        after := by
  cases stands with
  | new => exact ⟨_, .new, (Action.ends_throw _ _).bind_error _⟩
  | built h serves =>
    have gives := Resolver.gives_resolve (agrees_resolutionOf_build settings h) path
    obtain ⟨after, kept, ends⟩ :=
      gives_withResolver .resolve SessionError.resolver gives session serves
    exact ⟨after, .built h kept, ends.map Reply.resolution⟩

theorem Stands.ends_findDuplicates (stands : Stands settings trees session) (room : Nat)
    (scope : Option Value) (types : Option Datum) :
    ∃ after, Stands settings trees after ∧
      (Call.findDuplicates room scope types).perform.Ends session
        ((Call.findDuplicates room scope types).due settings wanted trees) after := by
  cases stands with
  | new => exact ⟨_, .new, (Action.ends_throw _ _).bind_error _⟩
  | built h serves =>
    dsimp only [Call.due]
    have agrees := agrees_resolutionOf_build settings h
    cases given : (typesIn settings types).members? with
    | none =>
      obtain ⟨after, kept, ends⟩ := gives_findDuplicates_of_not_set given room scope session serves
      exact ⟨after, .built h kept, ends.bind_error _⟩
    | some members =>
      obtain ⟨after, kept, ends⟩ := gives_findDuplicates agrees given room scope session serves
      exact ⟨after, .built h kept, ends.map_result Reply.duplicates⟩

variable (given : settings.duplicateTypes.members? = some wanted)

include given

theorem Stands.ends_run (stands : Stands settings trees session) (room : Nat) (now : Timestamp)
    {built : List Value} (h : ∀ tree ∈ built, tree.isWellKeyed = true) (sources : List String)
    (scope : Option Value) :
    ∃ after, Stands settings (some built) after ∧
      (run room now built sources scope).Ends session
        (reportIn room settings wanted now built sources scope) after := by
  obtain rfl := stands.settings_eq
  obtain ⟨after, serves, ends⟩ := Session.ends_run given room now h sources scope
  exact ⟨after, .built h serves, ends⟩

/-- A call comes to the reply that is due, and what it builds takes the place of what was
built before. -/
theorem Stands.ends_perform (stands : Stands settings trees session) {call : Call}
    (h : call.IsWellKeyed) :
    ∃ after, Stands settings (call.builds.or trees) after ∧
      call.perform.Ends session (call.due settings wanted trees) after := by
  cases call with
  | build built =>
    obtain rfl := stands.settings_eq
    obtain ⟨after, serves, ends⟩ := ends_build built session
    exact ⟨after, .built h serves, ends.map Reply.graph⟩
  | resolve path => exact stands.ends_resolve path
  | findDuplicates room scope types => exact stands.ends_findDuplicates room scope types
  | run room now built sources scope =>
    obtain ⟨after, kept, ends⟩ := stands.ends_run given room now h sources scope
    exact ⟨after, kept, ends.map_result Reply.report⟩
  | runFiles room now files paths scope =>
    dsimp only [Call.builds, Call.due]
    cases loads : loaded files paths scope with
    | error error => exact ⟨session, stands, (ends_runFiles_of_error loads).bind_error _⟩
    | ok pair =>
      obtain ⟨built, tree⟩ := pair
      obtain ⟨after, kept, ends⟩ :=
        stands.ends_run given room now (isWellKeyed_of_loaded loads) paths tree
      exact ⟨after, kept, (ends_runFiles_of_loaded loads ends).map_result Reply.report⟩

theorem stands_afterAll {calls : List Call} (h : ∀ call ∈ calls, call.IsWellKeyed) :
    Stands settings (lastBuilt calls) (afterAll { settings } calls) := by
  induction calls using List.reverseRecOn with
  | nil => exact .new
  | append_singleton calls call ih =>
    obtain ⟨before, last⟩ := List.forall_mem_append.mp h
    obtain ⟨after, stands, ends⟩ :=
      (ih before).ends_perform given (List.forall_mem_singleton.mp last)
    rw [lastBuilt_concat, afterAll_concat, ends.state]
    exact stands

theorem Stands.replyOn_eq (stands : Stands settings trees session) (call : Call)
    (h : call.IsWellKeyed) : call.replyOn session = call.due settings wanted trees := by
  obtain ⟨after, -, ends⟩ := stands.ends_perform given h
  exact ends.result

/-- A new session on which only these trees are built. -/
theorem Stands.afterAll_build (stands : Stands settings trees session) :
    Stands settings trees (afterAll { settings } (trees.toList.map .build)) := by
  cases stands with
  | new => exact .new
  | @built trees _ h _ =>
    have h : ∀ call ∈ [Call.build trees], call.IsWellKeyed := List.forall_mem_singleton.mpr h
    exact stands_afterAll given h

end

/-- The session replies as if nothing had been done but to build these trees, if any. -/
structure RepliesAsBuilt (settings : Settings) (trees : Option (List Value)) (session : Session) :
    Prop where
  replies : ∀ call : Call, call.IsWellKeyed →
    call.replyOn session = call.replyOn (afterAll { settings } (trees.toList.map .build))
  resolve_not_built : ∀ path,
    (∃ request, (Call.resolve path).replyOn session = .error (.notBuilt request)) ↔ trees = none
  findDuplicates_not_built : ∀ room scope types,
    (∃ request, (Call.findDuplicates room scope types).replyOn session =
      .error (.notBuilt request)) ↔ trees = none
  run_report : ∀ room now built sources scope, (∀ tree ∈ built, tree.isWellKeyed = true) →
    (Call.run room now built sources scope).replyOn session =
        (Call.run room now built sources scope).replyOn { settings } ∧
      ((∃ report, (Call.run room now built sources scope).replyOn session =
        .ok (.report report)) ↔ CanCompare room settings built scope)
  /-- A run that fails on one of its files leaves no trace. -/
  load_failed : ∀ room now files paths scope, ∀ path ∈ needed paths scope, ∀ error,
    TokenFile.load files path = .error error →
      (∃ first, (Call.runFiles room now files paths scope).replyOn session =
        .error (.file first)) ∧
      ((Call.runFiles room now files paths scope).perform.run session).state = session

theorem Stands.repliesAsBuilt {settings : Settings} {wanted : List Datum}
    (given : settings.duplicateTypes.members? = some wanted) {trees : Option (List Value)}
    {session : Session} (stands : Stands settings trees session) :
    session.RepliesAsBuilt settings trees where
  replies call h := by
    rw [stands.replyOn_eq given call h, (stands.afterAll_build given).replyOn_eq given call h]
  resolve_not_built path := by
    rw [stands.replyOn_eq given (.resolve path) trivial]
    cases trees <;> simp [Call.due]
  findDuplicates_not_built room scope types := by
    rw [stands.replyOn_eq given (.findDuplicates room scope types) trivial]
    dsimp only [Call.due]
    split
    · simp
    · simp
    · generalize duplicatesIn room settings _ _ scope = groups
      cases groups <;> simp [Except.map, Except.mapError]
  run_report room now built sources scope h := by
    have fresh : Stands settings none { settings } := .new
    have due := stands.replyOn_eq given (.run room now built sources scope) h
    have due' := fresh.replyOn_eq given (.run room now built sources scope) h
    refine ⟨due.trans due'.symm, ?_⟩
    rw [due, ← exists_reportIn_iff given, Call.due]
    generalize reportIn room settings wanted now built sources scope = reported
    cases reported <;> simp [Except.map]
  load_failed room now files paths scope path member error fails := by
    cases loads : loaded files paths scope with
    | ok pair =>
      obtain ⟨tree, found⟩ := exists_load_of_loaded loads member
      rw [fails] at found
      contradiction
    | error first =>
      have failed : (Call.runFiles room now files paths scope).perform.Ends session
          (.error (.file first)) session := (ends_runFiles_of_error loads).bind_error _
      exact ⟨⟨first, failed.result⟩, failed.state⟩

/-- After any calls on a session only the trees that were built last show in its replies. -/
theorem repliesAsBuilt_afterAll (settings : Settings) (names : List String)
    (types : settings.duplicateTypes = .ofTexts names) (before : List Call)
    (h : ∀ call ∈ before, call.IsWellKeyed) :
    (afterAll { settings } before).RepliesAsBuilt settings (lastBuilt before) :=
  have given := types ▸ Datum.members?_ofTexts names
  (stands_afterAll given h).repliesAsBuilt given

/-- A request that comes too early, two builds, a search that fails, and a file that is not
there. -/
def troubled : List Call :=
  [.resolve "base", .run 0 newYear [.null] [] none, .build [stray],
    .findDuplicates 0 none (some (.int 5)), .runFiles 0 newYear ⟨[]⟩ ["gone.json"] none]

theorem repliesAsBuilt_troubled :
    (∀ call ∈ troubled, call.IsWellKeyed) ∧ lastBuilt troubled = some [stray] ∧
      (Call.resolve "lost").replyOn (afterAll { settings := {} } troubled) =
        (Call.resolve "lost").replyOn (afterAll { settings := {} } [.build [stray]]) ∧
      ¬∃ request, (Call.findDuplicates 0 none none).replyOn (afterAll { settings := {} } troubled) =
        .error (.notBuilt request) := by
  have h : ∀ call ∈ troubled, call.IsWellKeyed := by
    have null : ∀ tree ∈ [Value.null], tree.isWellKeyed = true := by decide
    have mapping : ∀ tree ∈ [stray], tree.isWellKeyed = true := by decide
    simpa [troubled, Call.IsWellKeyed] using And.intro null mapping
  have built : lastBuilt troubled = some [stray] := by rfl
  have as := repliesAsBuilt_afterAll {} ["color"] rfl troubled h
  rw [built] at as
  refine ⟨h, built, as.replies _ trivial, ?_⟩
  rw [as.findDuplicates_not_built]
  simp

end DesignTokens.Session
