import DesignTokens.Action

/-! How an operation ends, whatever it reports on the way. -/
namespace DesignTokens.Action

variable {σ ε α β : Type}

/-- From the first state the operation comes to the result and leaves the second one. -/
def Ends (action : Action σ ε α) (s : σ) (result : Except ε α) (t : σ) : Prop :=
  ∃ journal, action.run s = ⟨result, t, journal⟩

theorem Ends.result {action : Action σ ε α} {s t : σ} {result : Except ε α}
    (ends : action.Ends s result t) : (action.run s).result = result := by
  obtain ⟨journal, ran⟩ := ends
  rw [ran]

theorem Ends.state {action : Action σ ε α} {s t : σ} {result : Except ε α}
    (ends : action.Ends s result t) : (action.run s).state = t := by
  obtain ⟨journal, ran⟩ := ends
  rw [ran]

theorem ends_of_result {action : Action σ ε α} {s : σ} {result : Except ε α}
    (same : (action.run s).result = result) : action.Ends s result (action.run s).state := by
  subst same
  exact ⟨(action.run s).journal, rfl⟩

theorem ends_pure (a : α) (s : σ) : (pure a : Action σ ε α).Ends s (.ok a) s := ⟨[], rfl⟩

theorem ends_throw (e : ε) (s : σ) : (throw e : Action σ ε α).Ends s (.error e) s := ⟨[], rfl⟩

theorem ends_state (s : σ) : (state : Action σ ε σ).Ends s (.ok s) s := ⟨[], rfl⟩

theorem ends_put (s t : σ) : (put t : Action σ ε Unit).Ends s (.ok ()) t := ⟨[], rfl⟩

theorem ends_report (events : Journal) (s : σ) :
    (report events : Action σ ε Unit).Ends s (.ok ()) s := ⟨events, rfl⟩

/-- An operation that succeeds hands its result and its state to the next one. -/
theorem Ends.bind {action : Action σ ε α} {next : α → Action σ ε β} {s t u : σ} {a : α}
    {result : Except ε β} (first : action.Ends s (.ok a) t) (second : (next a).Ends t result u) :
    (action >>= next).Ends s result u := by
  obtain ⟨events, ran⟩ := first
  obtain ⟨others, later⟩ := second
  refine ⟨events ++ others, ?_⟩
  rw [run_bind, ran, andThen_ok, later]

theorem Ends.map {action : Action σ ε α} {s t : σ} {a : α} (ends : action.Ends s (.ok a) t)
    (f : α → β) : (action >>= fun a => pure (f a)).Ends s (.ok (f a)) t :=
  ends.bind (ends_pure (f a) t)

/-- An operation that fails leaves nothing to do. -/
theorem Ends.bind_error {action : Action σ ε α} (next : α → Action σ ε β) {s t : σ} {e : ε}
    (fails : action.Ends s (.error e) t) : (action >>= next).Ends s (.error e) t := by
  obtain ⟨events, ran⟩ := fails
  refine ⟨events, ?_⟩
  rw [run_bind, ran, andThen_error]

theorem Ends.map_result {action : Action σ ε α} {s t : σ} {result : Except ε α}
    (ends : action.Ends s result t) (f : α → β) :
    (action >>= fun a => pure (f a)).Ends s (result.map f) t := by
  cases result with
  | ok a => exact ends.map f
  | error e => exact ends.bind_error _

/-- Operations that succeed one after the other have each succeeded. -/
theorem ok_of_bind {action : Action σ ε α} {next : α → Action σ ε β} {s : σ} {b : β}
    (ends : ((action >>= next).run s).result = .ok b) :
    ∃ a, (action.run s).result = .ok a ∧ ((next a).run (action.run s).state).result = .ok b := by
  rw [run_bind] at ends
  cases ran : action.run s with
  | mk result t journal =>
    rw [ran] at ends
    cases result with
    | error e => cases ends
    | ok a => exact ⟨a, rfl, ends⟩

/-- What a finished operation on another state came to. -/
theorem Ends.absorb {τ ε' : Type} {action : Action τ ε' α} {s t : τ} {result : Except ε' α}
    (ends : action.Ends s result t) (wrap : ε' → ε) (u : σ) :
    (Action.absorb wrap (action.run s) : Action σ ε α).Ends u (result.mapError wrap) u := by
  obtain ⟨journal, ran⟩ := ends
  exact ⟨journal, by rw [run_absorb, ran]⟩

theorem ends_ofExcept {ε' : Type} (wrap : ε' → ε) (result : Except ε' α) (s : σ) :
    (ofExcept wrap result).Ends s (result.mapError wrap) s := by
  cases result with
  | ok a => exact ends_pure a s
  | error e => exact ends_throw (wrap e) s

/-- They come to what their results come to one after the other. -/
theorem Ends.bind_same {action : Action σ ε α} {next : α → Action σ ε β} {s : σ}
    {result : Except ε α} {results : α → Except ε β} (first : action.Ends s result s)
    (second : ∀ a, (next a).Ends s (results a) s) :
    (action >>= next).Ends s (result >>= results) s := by
  cases result with
  | ok a => exact first.bind (second a)
  | error e => exact first.bind_error next

theorem ends_mapM {f : α → Action σ ε β} {results : α → Except ε β} {s : σ}
    (each : ∀ a, (f a).Ends s (results a) s) (items : List α) :
    (items.mapM f).Ends s (items.mapM results) s := by
  induction items with
  | nil => exact ends_pure [] s
  | cons a rest ih =>
    rw [List.mapM_cons, List.mapM_cons]
    exact (each a).bind_same fun _ => ih.bind_same fun _ => ends_pure _ s

/-- From every state in which the invariant holds the operation comes to the result, and the
invariant holds again. -/
def Gives (action : Action σ ε α) (holds : σ → Prop) (result : Except ε α) : Prop :=
  ∀ s, holds s → ∃ t, holds t ∧ action.Ends s result t

variable {holds : σ → Prop}

theorem gives_pure (a : α) : (pure a : Action σ ε α).Gives holds (.ok a) :=
  fun s kept => ⟨s, kept, ends_pure a s⟩

theorem gives_throw (e : ε) : (throw e : Action σ ε α).Gives holds (.error e) :=
  fun s kept => ⟨s, kept, ends_throw e s⟩

theorem gives_report (events : Journal) :
    (report events : Action σ ε Unit).Gives holds (.ok ()) :=
  fun s kept => ⟨s, kept, ends_report events s⟩

theorem Gives.bind {action : Action σ ε α} {next : α → Action σ ε β} {a : α}
    {result : Except ε β} (first : action.Gives holds (.ok a))
    (second : (next a).Gives holds result) : (action >>= next).Gives holds result := by
  intro s kept
  obtain ⟨t, between, first⟩ := first s kept
  obtain ⟨u, after, second⟩ := second t between
  exact ⟨u, after, first.bind second⟩

theorem Gives.map {action : Action σ ε α} {a : α} (gives : action.Gives holds (.ok a))
    (f : α → β) : (action >>= fun a => pure (f a)).Gives holds (.ok (f a)) :=
  gives.bind (gives_pure (f a))

/-- What comes first may lead to where the invariant holds. -/
theorem Ends.bind_exists {action : Action σ ε α} {next : α → Action σ ε β} {s t : σ} {a : α}
    {result : Except ε β} (first : action.Ends s (.ok a) t)
    (second : ∃ u, holds u ∧ (next a).Ends t result u) :
    ∃ u, holds u ∧ (action >>= next).Ends s result u := by
  obtain ⟨u, kept, ends⟩ := second
  exact ⟨u, kept, first.bind ends⟩

/-- What is done with a state may make use of the invariant. -/
theorem gives_state_bind {next : σ → Action σ ε α} {result : Except ε α}
    (each : ∀ s, holds s → (next s).Gives holds result) :
    (state >>= next).Gives holds result := by
  intro s kept
  obtain ⟨t, after, ends⟩ := each s kept s kept
  exact ⟨t, after, (ends_state s).bind ends⟩

theorem Gives.bind_error {action : Action σ ε α} {e : ε} (fails : action.Gives holds (.error e))
    (next : α → Action σ ε β) : (action >>= next).Gives holds (.error e) := by
  intro s kept
  obtain ⟨t, after, fails⟩ := fails s kept
  exact ⟨t, after, fails.bind_error next⟩

theorem gives_ofExcept_map {ε' : Type} (wrap : ε' → ε) (result : Except ε' α) (f : α → β) :
    (ofExcept wrap result >>= fun a => pure (f a)).Gives holds
      ((result.map f).mapError wrap) := by
  cases result with
  | ok a => exact (gives_pure a).map f
  | error e => exact Gives.bind_error (gives_throw (wrap e)) _

/-- The invariant holds as well where the first operation fails. -/
theorem Gives.bind_each {action : Action σ ε α} {next : α → Action σ ε β} {result : Except ε α}
    {results : α → Except ε β} (first : action.Gives holds result)
    (second : ∀ a, (next a).Gives holds (results a)) :
    (action >>= next).Gives holds (result >>= results) := by
  cases result with
  | ok a => exact first.bind (second a)
  | error e => exact first.bind_error next

/-- A loop whose every round gives the next step of a fold that may fail. -/
theorem gives_foldlM {f : β → α → Action σ ε β} {step : β → α → Except ε β}
    (round : ∀ b a, (f b a).Gives holds (step b a)) (items : List α) (b : β) :
    (items.foldlM f b).Gives holds (items.foldlM step b) := by
  induction items generalizing b with
  | nil => exact gives_pure b
  | cons a rest ih =>
    rw [List.foldlM_cons, List.foldlM_cons]
    exact (round b a).bind_each ih

end DesignTokens.Action
