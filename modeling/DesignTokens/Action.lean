import DesignTokens.Event

/-! Operations on a state that may fail and that report what they do. A failed
operation keeps what it did to the state and what it reported. -/
namespace DesignTokens

structure Ran (σ ε α : Type) where
  result : Except ε α
  state : σ
  journal : Journal

def Action (σ ε α : Type) := σ → Ran σ ε α

namespace Action

variable {σ ε α β : Type}

def run (action : Action σ ε α) (s : σ) : Ran σ ε α := action s

@[ext] theorem ext {x y : Action σ ε α} (h : ∀ s, x.run s = y.run s) : x = y := funext h

/-- What is done next after an operation, unless it failed. -/
def andThen (ran : Ran σ ε α) (next : α → Action σ ε β) : Ran σ ε β :=
  match ran.result with
  | .ok a =>
    let after := (next a).run ran.state
    { after with journal := ran.journal ++ after.journal }
  | .error e => ⟨.error e, ran.state, ran.journal⟩

instance : Monad (Action σ ε) where
  pure a := fun s => ⟨.ok a, s, []⟩
  bind action next := fun s => andThen (action.run s) next

instance : MonadExceptOf ε (Action σ ε) where
  throw e := fun s => ⟨.error e, s, []⟩
  tryCatch action handle := fun s =>
    let ran := action.run s
    match ran.result with
    | .ok _ => ran
    | .error e =>
      let after := (handle e).run ran.state
      { after with journal := ran.journal ++ after.journal }

def state : Action σ ε σ := fun s => ⟨.ok s, s, []⟩

def put (s : σ) : Action σ ε Unit := fun _ => ⟨.ok (), s, []⟩

def report (events : Journal) : Action σ ε Unit := fun s => ⟨.ok (), s, events⟩

def ofExcept {ε' : Type} (wrap : ε' → ε) : Except ε' α → Action σ ε α
  | .ok a => return a
  | .error e => throw (wrap e)

/-- Takes over what a finished operation on another state reported. -/
def absorb {τ ε' : Type} (wrap : ε' → ε) (ran : Ran τ ε' α) : Action σ ε α := do
  report ran.journal
  ofExcept wrap ran.result

@[simp] theorem run_pure (a : α) (s : σ) :
    (pure a : Action σ ε α).run s = ⟨.ok a, s, []⟩ := rfl

@[simp] theorem run_throw (e : ε) (s : σ) :
    (throw e : Action σ ε α).run s = ⟨.error e, s, []⟩ := rfl

@[simp] theorem run_bind (x : Action σ ε α) (next : α → Action σ ε β) (s : σ) :
    (x >>= next).run s = andThen (x.run s) next := rfl

@[simp] theorem run_state (s : σ) : (state : Action σ ε σ).run s = ⟨.ok s, s, []⟩ := rfl

@[simp] theorem run_put (s t : σ) : (put t : Action σ ε Unit).run s = ⟨.ok (), t, []⟩ := rfl

@[simp] theorem run_report (events : Journal) (s : σ) :
    (report events : Action σ ε Unit).run s = ⟨.ok (), s, events⟩ := rfl

@[simp] theorem andThen_ok (a : α) (s : σ) (journal : Journal) (next : α → Action σ ε β) :
    andThen ⟨.ok a, s, journal⟩ next =
      { (next a).run s with journal := journal ++ ((next a).run s).journal } := rfl

@[simp] theorem andThen_error (e : ε) (s : σ) (journal : Journal) (next : α → Action σ ε β) :
    andThen ⟨.error e, s, journal⟩ next = ⟨.error e, s, journal⟩ := rfl

@[simp] theorem run_ofExcept_ok {ε' : Type} (wrap : ε' → ε) (a : α) (s : σ) :
    (ofExcept wrap (.ok a) : Action σ ε α).run s = ⟨.ok a, s, []⟩ := rfl

@[simp] theorem run_ofExcept_error {ε' : Type} (wrap : ε' → ε) (e : ε') (s : σ) :
    (ofExcept wrap (.error e) : Action σ ε α).run s = ⟨.error (wrap e), s, []⟩ := rfl

theorem run_absorb {τ ε' : Type} (wrap : ε' → ε) (ran : Ran τ ε' α) (s : σ) :
    (absorb wrap ran : Action σ ε α).run s = ⟨ran.result.mapError wrap, s, ran.journal⟩ := by
  obtain ⟨result, t, journal⟩ := ran
  cases result with
  | error e => exact congrArg (Ran.mk _ s) journal.append_nil
  | ok a => exact congrArg (Ran.mk _ s) journal.append_nil

theorem andThen_pure (ran : Ran σ ε α) : andThen ran pure = ran := by
  obtain ⟨result, t, journal⟩ := ran
  cases result <;> simp

theorem andThen_andThen {γ : Type} (ran : Ran σ ε α) (f : α → Action σ ε β)
    (g : β → Action σ ε γ) :
    andThen (andThen ran f) g = andThen ran fun a => f a >>= g := by
  obtain ⟨result, t, journal⟩ := ran
  cases result with
  | error e => rfl
  | ok a =>
    simp only [andThen_ok, run_bind]
    obtain ⟨result, u, events⟩ := (f a).run t
    cases result <;> simp

instance : LawfulMonad (Action σ ε) :=
  .mk' _ (fun x => ext fun s => andThen_pure (x.run s)) (fun _ _ => ext fun _ => by simp)
    fun x f g => ext fun s => andThen_andThen (x.run s) f g

end Action

end DesignTokens
