import DesignTokens.Proofs.Action
import DesignTokens.Proofs.Json.Reader
import DesignTokens.Session

/-! What a session loads. All files are loaded before anything is built, so that a run that
lacks one of them does nothing. -/
namespace DesignTokens

namespace TokenFile

theorem ends_loadAll {σ : Type} (files : Files) (paths : List String) (s : σ) :
    (loadAll files paths).Ends s (paths.mapM (load files)) s := by
  refine Action.ends_mapM (fun path => ?_) paths
  have ends := (Action.ends_ofExcept id (load files path) s).bind_same fun tree =>
    (Action.ends_report [.fileLoaded path] s).map fun _ => tree
  cases loads : load files path <;> rwa [loads] at ends

/-- The trees are those of the files, and each file has one. -/
theorem of_mapM_load {files : Files} {paths : List String} {trees : List Value}
    (loaded : paths.mapM (load files) = .ok trees) :
    (∀ path ∈ paths, ∃ tree, load files path = .ok tree) ∧
      ∀ tree ∈ trees, ∃ path, load files path = .ok tree := by
  induction paths generalizing trees with
  | nil =>
    obtain rfl := Except.ok.inj loaded
    simp
  | cons path rest ih =>
    rw [List.mapM_cons] at loaded
    cases here : load files path with
    | error e => rw [here] at loaded; contradiction
    | ok tree =>
      cases there : rest.mapM (load files) with
      | error e => rw [here, there] at loaded; contradiction
      | ok others =>
        rw [here, there] at loaded
        obtain rfl := Except.ok.inj loaded
        obtain ⟨complete, sources⟩ := ih there
        exact ⟨List.forall_mem_cons.mpr ⟨⟨tree, here⟩, complete⟩,
          List.forall_mem_cons.mpr ⟨⟨path, here⟩, sources⟩⟩

end TokenFile

namespace Session

/-- The trees of some files, and that of the scope if there is one. -/
def loaded (files : Files) (paths : List String) (scope : Option String) :
    Except TokenFileError (List Value × Option Value) := do
  let trees ← paths.mapM (TokenFile.load files)
  let tree ← (scope.filter (· ≠ "")).mapM (TokenFile.load files)
  return (trees, tree)

/-- The files that are loaded. -/
def needed (paths : List String) (scope : Option String) : List String :=
  paths ++ (scope.filter (· ≠ "")).toList

/-- The operation that loads them. -/
def load (files : Files) (paths : List String) (scope : Option String) :
    Running (List Value × Option Value) := do
  let trees ← loadTrees files paths
  let tree ← loadScope files scope
  return (trees, tree)

section

variable {files : Files} {paths : List String} {scope : Option String}

theorem of_loaded {trees : List Value} {tree : Option Value}
    (loads : loaded files paths scope = .ok (trees, tree)) :
    paths.mapM (TokenFile.load files) = .ok trees ∧
      (scope.filter (· ≠ "")).mapM (TokenFile.load files) = .ok tree := by
  unfold loaded at loads
  cases each : paths.mapM (TokenFile.load files) with
  | error e => rw [each] at loads; contradiction
  | ok trees' =>
    cases last : (scope.filter (· ≠ "")).mapM (TokenFile.load files) with
    | error e => rw [each, last] at loads; contradiction
    | ok tree' =>
      rw [each, last] at loads
      obtain ⟨rfl, rfl⟩ := Prod.mk.inj (Except.ok.inj loads)
      exact ⟨rfl, rfl⟩

theorem isWellKeyed_of_loaded {trees : List Value} {tree : Option Value}
    (loads : loaded files paths scope = .ok (trees, tree)) :
    ∀ tree ∈ trees, tree.isWellKeyed = true := by
  intro tree member
  obtain ⟨path, loads⟩ := (TokenFile.of_mapM_load (of_loaded loads).1).2 tree member
  exact TokenFile.isWellKeyed_of_load loads

/-- Nothing is loaded unless every file can be. -/
theorem exists_load_of_loaded {trees : List Value} {tree : Option Value}
    (loads : loaded files paths scope = .ok (trees, tree)) {path : String}
    (member : path ∈ needed paths scope) : ∃ tree, TokenFile.load files path = .ok tree := by
  obtain ⟨each, last⟩ := of_loaded loads
  rcases List.mem_append.mp member with listed | last'
  · exact (TokenFile.of_mapM_load each).1 path listed
  · rw [Option.mem_toList.mp last', Option.mapM_some] at last
    cases here : TokenFile.load files path with
    | ok tree => exact ⟨tree, rfl⟩
    | error e => rw [here] at last; contradiction

theorem ends_loadTrees (files : Files) (paths : List String) (session : Session) :
    (loadTrees files paths).Ends session ((paths.mapM (TokenFile.load files)).mapError .file)
      session :=
  (TokenFile.ends_loadAll files paths ()).absorb _ session

theorem ends_loadScope (files : Files) (scope : Option String) (session : Session) :
    (loadScope files scope).Ends session
      (((scope.filter (· ≠ "")).mapM (TokenFile.load files)).mapError .file) session := by
  unfold loadScope
  cases scope.filter (· ≠ "") with
  | none => exact Action.ends_pure none session
  | some path =>
    have ends := (Action.ends_ofExcept SessionError.file (TokenFile.load files path) session)
      |>.bind_same fun tree => Action.ends_pure (some tree) session
    dsimp only
    rw [Option.mapM_some]
    cases loads : TokenFile.load files path <;> rwa [loads] at ends

theorem ends_load (files : Files) (paths : List String) (scope : Option String)
    (session : Session) :
    (load files paths scope).Ends session ((loaded files paths scope).mapError .file) session := by
  have ends := (ends_loadTrees files paths session).bind_same fun trees =>
    (ends_loadScope files scope session).bind_same fun tree =>
      Action.ends_pure (trees, tree) session
  unfold loaded
  cases each : paths.mapM (TokenFile.load files) with
  | error e => rwa [each] at ends
  | ok trees =>
    cases last : (scope.filter (· ≠ "")).mapM (TokenFile.load files) <;> rwa [each, last] at ends

theorem runFiles_eq (room : Nat) (now : Timestamp) (files : Files) (paths : List String)
    (scope : Option String) :
    runFiles room now files paths scope =
      load files paths scope >>= fun (trees, tree) => run room now trees paths tree := by
  simp only [runFiles, load, bind_assoc, pure_bind]

variable {room : Nat} {now : Timestamp} {session : Session}

/-- Without its files a run does nothing. -/
theorem ends_runFiles_of_error {error : TokenFileError}
    (fails : loaded files paths scope = .error error) :
    (runFiles room now files paths scope).Ends session (.error (.file error)) session := by
  have ends := ends_load files paths scope session
  rw [fails] at ends
  rw [runFiles_eq]
  exact ends.bind_error _

theorem ends_runFiles_of_loaded {trees : List Value} {tree : Option Value}
    (loads : loaded files paths scope = .ok (trees, tree)) {result : Except SessionError Report}
    {after : Session} (ends : (run room now trees paths tree).Ends session result after) :
    (runFiles room now files paths scope).Ends session result after := by
  have before := ends_load files paths scope session
  rw [loads] at before
  rw [runFiles_eq]
  exact before.bind ends

end

end Session

end DesignTokens
