import Mathlib.Data.List.Basic

/-! A fold that may fail fails with the first step that does, and otherwise comes to what the
fold of its steps comes to. -/
namespace DesignTokens

theorem foldlM_eq_error_iff {α β ε : Type} {f : β → α → Except ε β} {items : List α} {b : β}
    {e : ε} : items.foldlM f b = .error e ↔
      ∃ before item after c, items = before ++ item :: after ∧ before.foldlM f b = .ok c ∧
        f c item = .error e := by
  induction items generalizing b with
  | nil =>
    refine iff_of_false (by simp [pure, Except.pure]) ?_
    rintro ⟨before, item, after, c, split, -⟩
    exact absurd split.symm (by simp)
  | cons first rest ih =>
    rw [List.foldlM_cons]
    cases step : f b first with
    | error other =>
      constructor
      · intro same
        obtain rfl := Except.error.inj same
        exact ⟨[], first, rest, b, rfl, rfl, step⟩
      · rintro ⟨before, item, after, c, split, reached, fails⟩
        cases before with
        | nil =>
          obtain ⟨rfl, -⟩ := List.cons.inj split
          obtain rfl := Except.ok.inj reached
          obtain rfl := Except.error.inj (step.symm.trans fails)
          rfl
        | cons _ others =>
          obtain ⟨rfl, -⟩ := List.cons.inj split
          rw [List.foldlM_cons, step] at reached
          cases reached
    | ok next =>
      refine ih.trans ?_
      constructor
      · rintro ⟨before, item, after, c, rfl, reached, fails⟩
        refine ⟨first :: before, item, after, c, rfl, ?_, fails⟩
        rw [List.foldlM_cons, step]
        exact reached
      · rintro ⟨before, item, after, c, split, reached, fails⟩
        cases before with
        | nil =>
          obtain ⟨rfl, -⟩ := List.cons.inj split
          obtain rfl := Except.ok.inj reached
          cases step.symm.trans fails
        | cons _ others =>
          obtain ⟨rfl, rfl⟩ := List.cons.inj split
          rw [List.foldlM_cons, step] at reached
          exact ⟨others, item, after, c, rfl, reached, fails⟩

theorem foldlM_eq_ok_iff {α β ε : Type} {f : β → α → Except ε β} {step : β → α → β}
    {holds : α → Prop} (each : ∀ b a c, f b a = .ok c ↔ holds a ∧ step b a = c) {items : List α}
    {b c : β} :
    items.foldlM f b = .ok c ↔ (∀ item ∈ items, holds item) ∧ items.foldl step b = c := by
  induction items generalizing b with
  | nil => simp [pure, Except.pure]
  | cons first rest ih =>
    rw [List.foldlM_cons, List.foldl_cons, List.forall_mem_cons, and_assoc, ← ih]
    cases here : f b first with
    | error e =>
      refine iff_of_false nofun fun ⟨held, _⟩ => ?_
      cases here.symm.trans ((each b first _).mpr ⟨held, rfl⟩)
    | ok next =>
      obtain ⟨held, rfl⟩ := (each b first next).mp here
      exact (and_iff_right held).symm

theorem mapM_eq_ok_iff {α β ε : Type} {f : α → Except ε β} {g : α → β} {holds : α → Prop}
    (each : ∀ a b, f a = .ok b ↔ holds a ∧ g a = b) {items : List α} {results : List β} :
    items.mapM f = .ok results ↔ (∀ item ∈ items, holds item) ∧ items.map g = results := by
  induction items generalizing results with
  | nil => simp [pure, Except.pure]
  | cons first rest ih =>
    rw [List.mapM_cons, List.map_cons, List.forall_mem_cons]
    cases here : f first with
    | error e =>
      refine iff_of_false nofun fun ⟨⟨held, _⟩, _⟩ => ?_
      cases here.symm.trans ((each first _).mpr ⟨held, rfl⟩)
    | ok b =>
      obtain ⟨held, rfl⟩ := (each first b).mp here
      cases there : rest.mapM f with
      | error e =>
        refine iff_of_false nofun fun ⟨⟨_, others⟩, _⟩ => ?_
        cases there.symm.trans (ih.mpr ⟨others, rfl⟩)
      | ok bs =>
        obtain ⟨others, rfl⟩ := ih.mp there
        rw [and_iff_right (And.intro held others)]
        exact ⟨Except.ok.inj, congrArg Except.ok⟩

theorem foldlM_mapError {α β ε ε' : Type} (step : β → α → Except ε β) (wrap : ε → ε')
    (items : List α) (b : β) :
    items.foldlM (fun b a => (step b a).mapError wrap) b = (items.foldlM step b).mapError wrap := by
  induction items generalizing b with
  | nil => rfl
  | cons first rest ih =>
    rw [List.foldlM_cons, List.foldlM_cons]
    cases step b first with
    | error e => rfl
    | ok next => exact ih next

end DesignTokens
