import DesignTokens.CommandLine
import DesignTokens.Proofs.Report.Screen
import DesignTokens.Proofs.Session.Loading
import DesignTokens.Proofs.Session.Run

/-! What a command comes to, whatever it prints on the way. -/
namespace DesignTokens.CommandLine

variable {α β : Type} {around : Surroundings}

/-- Whatever the console holds already, the run comes to the result. -/
def Comes (around : Surroundings) (run : Run α) (result : Except Stop α) : Prop :=
  ∀ console, ∃ after, (ExceptT.run (ReaderT.run run around)).run console = (result, after)

theorem comes_pure (a : α) : Comes around (pure a) (.ok a) := fun console => ⟨console, rfl⟩

theorem comes_throw (stop : Stop) : Comes around (throw stop : Run α) (.error stop) :=
  fun console => ⟨console, rfl⟩

theorem comes_read : Comes around read (.ok around) := fun console => ⟨console, rfl⟩

theorem comes_printText (text : String) : Comes around (printText text) (.ok ()) :=
  fun _ => ⟨_, rfl⟩

theorem Comes.bind {run : Run α} {next : α → Run β} {a : α} {result : Except Stop β}
    (first : Comes around run (.ok a)) (second : Comes around (next a) result) :
    Comes around (run >>= next) result := by
  intro console
  obtain ⟨between, ran⟩ := first console
  obtain ⟨after, later⟩ := second between
  refine ⟨after, ?_⟩
  rw [ReaderT.run_bind, ExceptT.run_bind, StateT.run_bind, ran]
  exact later

theorem Comes.bind_error {run : Run α} {next : α → Run β} {stop : Stop}
    (fails : Comes around run (.error stop)) : Comes around (run >>= next) (.error stop) := by
  intro console
  obtain ⟨after, ran⟩ := fails console
  refine ⟨after, ?_⟩
  rw [ReaderT.run_bind, ExceptT.run_bind, StateT.run_bind, ran]
  rfl

theorem Comes.map {run : Run α} {a : α} (comes : Comes around run (.ok a)) (f : α → β) :
    Comes around (run >>= fun a => pure (f a)) (.ok (f a)) := comes.bind (comes_pure (f a))

theorem Comes.tryCatch {run : Run α} {handle : Stop → Run α} {a : α}
    (comes : Comes around run (.ok a)) : Comes around (tryCatch run handle) (.ok a) := by
  intro console
  obtain ⟨after, ran⟩ := comes console
  refine ⟨after, ?_⟩
  change StateT.run (ExceptT.run (ExceptT.tryCatch (ReaderT.run run around) _)) console = _
  rw [ExceptT.tryCatch, ExceptT.run_mk]
  change StateT.run (ExceptT.run (ReaderT.run run around) >>= _) console = _
  rw [StateT.run_bind, ran]
  rfl

theorem Comes.tryCatch_error {run : Run α} {handle : Stop → Run α} {stop : Stop}
    {result : Except Stop α} (fails : Comes around run (.error stop))
    (handled : Comes around (handle stop) result) :
    Comes around (MonadExcept.tryCatch run handle) result := by
  intro console
  obtain ⟨between, ran⟩ := fails console
  obtain ⟨after, later⟩ := handled between
  refine ⟨after, ?_⟩
  change StateT.run (ExceptT.run (ExceptT.tryCatch (ReaderT.run run around) _)) console = _
  rw [ExceptT.tryCatch, ExceptT.run_mk]
  change StateT.run (ExceptT.run (ReaderT.run run around) >>= _) console = _
  rw [StateT.run_bind, ran]
  exact later

/-- A result and an exit code need no explanation. -/
theorem Comes.explaining {run : Run α} {a : α} (comes : Comes around run (.ok a)) :
    Comes around (explaining run) (.ok a) := comes.tryCatch

theorem Comes.explaining_exit {run : Run α} {code : Nat}
    (comes : Comes around run (.error (.exit code))) :
    Comes around (CommandLine.explaining run) (.error (.exit code)) :=
  comes.tryCatch_error (comes_throw _)

/-- The run ends with a fault, one that is not the user's to mend. -/
def Faults (around : Surroundings) (run : Run α) : Prop :=
  ∃ fault, complaint? fault = none ∧ Comes around run (.error (.fault fault))

theorem faults_throw {fault : Fault} (silent : complaint? fault = none) :
    Faults around (throw (.fault fault) : Run α) := ⟨fault, silent, comes_throw _⟩

theorem Faults.bind {run : Run α} (faults : Faults around run) (next : α → Run β) :
    Faults around (run >>= next) :=
  have ⟨fault, silent, comes⟩ := faults
  ⟨fault, silent, comes.bind_error⟩

theorem Comes.bind_faults {run : Run α} {next : α → Run β} {a : α}
    (first : Comes around run (.ok a)) (second : Faults around (next a)) :
    Faults around (run >>= next) :=
  have ⟨fault, silent, comes⟩ := second
  ⟨fault, silent, first.bind comes⟩

theorem Faults.explaining {run : Run α} (faults : Faults around run) :
    Faults around (CommandLine.explaining run) := by
  obtain ⟨fault, silent, comes⟩ := faults
  refine ⟨fault, silent, comes.tryCatch_error ?_⟩
  dsimp only
  rw [silent]
  exact comes_throw _

theorem comes_orUnwritable {written : Except Json.Unwritable α} {a : α} (found : written = .ok a) :
    Comes around (orUnwritable written) (.ok a) := by
  rw [found]
  exact comes_pure a

theorem faults_orUnwritable {written : Except Json.Unwritable α} {fault : Json.Unwritable}
    (failed : written = .error fault) : Faults around (orUnwritable written) := by
  rw [failed]
  exact faults_throw rfl

theorem comes_display {blocks : List Block} (shows : ∀ block ∈ blocks, Screen.Shows block) :
    Comes around (display blocks) (.ok ()) := by
  obtain ⟨text, found⟩ := Option.isSome_iff_exists.mp (Screen.isSome_text?.mpr shows)
  rw [display, found]
  exact (comes_pure text).bind (comes_printText text)

theorem comes_echo (text : String) : Comes around (echo text) (.ok ()) := comes_printText _

theorem comes_log (verbose : Bool) (journal : Journal) :
    Comes around (log verbose journal) (.ok ()) :=
  comes_display (List.forall_mem_map.mpr fun _ _ => trivial)

/-- An operation that succeeds hands over what it comes to and what becomes of the state. -/
theorem comes_perform {σ ε : Type} {action : Action σ ε α} {s t : σ} {a : α}
    (ends : action.Ends s (.ok a) t) (verbose : Bool) (wrap : ε → Fault) :
    Comes around (perform verbose wrap action s) (.ok (a, t)) := by
  rw [perform]
  refine (comes_log verbose _).bind ?_
  rw [ends.result, ends.state]
  exact comes_pure (a, t)

/-- An operation that fails of what is not the user's to mend ends the run. -/
theorem faults_perform {σ ε : Type} {action : Action σ ε α} {s t : σ} {e : ε}
    (ends : action.Ends s (.error e) t) (verbose : Bool) {wrap : ε → Fault}
    (silent : complaint? (wrap e) = none) : Faults around (perform verbose wrap action s) := by
  rw [perform]
  refine (comes_log verbose _).bind_faults ?_
  rw [ends.result]
  exact faults_throw silent

/-- The command line ends with the exit code; a fault has none. -/
def Exits (around : Surroundings) (words : List String) (code : Nat) : Prop :=
  ∃ console, outcome around words = .ok ⟨code, console⟩

def exitCode? : Except Stop Unit → Option Nat
  | .ok () => some 0
  | .error (.exit code) => some code
  | .error (.fault _) => none

theorem exits_iff {words : List String} {invocation : Invocation} {result : Except Stop Unit}
    (parsed : invocation? words = some invocation) (comes : Comes around (run invocation) result)
    {code : Nat} : Exits around words code ↔ exitCode? result = some code := by
  obtain ⟨console, ran⟩ := comes {}
  rw [Exits, outcome, parsed]
  dsimp only
  rw [ran]
  rcases result with (code' | fault) | ⟨⟩
  · simp [exitCode?]
  · simp [exitCode?]
  · simp [exitCode?]

theorem not_exits_of_faults {words : List String} {invocation : Invocation}
    (parsed : invocation? words = some invocation) (faults : Faults around (run invocation))
    (code : Nat) : ¬Exits around words code := by
  obtain ⟨fault, -, comes⟩ := faults
  rw [exits_iff parsed comes]
  nofun

end DesignTokens.CommandLine
