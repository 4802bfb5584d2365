import DesignTokens.Proofs.Resolution.Chain
import DesignTokens.Resolution.Machine

/-! The cache of a resolver. It holds resolved answers only, and with a path all that the
path refers to, so a part of a resolution can be described by the paths it adds. -/
namespace DesignTokens.Machine

variable {graph : Graph} {memoize : Bool} {cache : Entries Resolution}

/-- Every entry is the answer to a request for its path, a resolved one, and the paths it
refers to are cached too. -/
structure Sound (graph : Graph) (cache : Entries Resolution) : Prop where
  distinct : cache.keys.Nodup
  answers : ∀ path hit, cache.lookup path = some hit →
    hit = graph.resolutionOf path ∧ (graph.answer path).1 = .resolved
  closed : ∀ path ∈ cache.keys, ∀ target, graph.Refers path target → target ∈ cache.keys

theorem sound_nil (graph : Graph) : Sound graph [] where
  distinct := List.nodup_nil
  answers := by
    intro path hit found
    rw [List.lookup_nil] at found
    contradiction
  closed _ known := absurd known List.not_mem_nil

theorem Sound.mem_keys_of_reaches (sound : Sound graph cache) {path goal : String}
    (known : path ∈ cache.keys) (reached : graph.Reaches path goal) : goal ∈ cache.keys :=
  reached.mem_of_closed sound.closed known

/-- The cache behind a chain that ends with the answer. A resolved one is kept for every
path of the chain. -/
def keepChain (memoize : Bool) (chain : List String) (answer : Status × Value)
    (cache : Entries Resolution) : Entries Resolution :=
  if memoize = true ∧ answer.1 = .resolved then
    chain.foldl (fun cache path => cache.put path ⟨path, .resolved, answer.2⟩) cache
  else cache

section

variable (chain : List String) (value : Value)

theorem mem_keys_foldl_put (cache : Entries Resolution) (path : String) :
    path ∈ Entries.keys
        (chain.foldl (fun cache path => cache.put path ⟨path, .resolved, value⟩) cache) ↔
      path ∈ chain ∨ path ∈ cache.keys := by
  induction chain generalizing cache with
  | nil => exact (or_iff_right List.not_mem_nil).symm
  | cons first rest ih =>
    rw [List.foldl_cons, ih, Entries.mem_keys_put, List.mem_cons, or_left_comm, or_assoc]

theorem nodup_keys_foldl_put (distinct : cache.keys.Nodup) :
    (Entries.keys
      (chain.foldl (fun cache path => cache.put path ⟨path, .resolved, value⟩) cache)).Nodup := by
  induction chain generalizing cache with
  | nil => exact distinct
  | cons first rest ih => exact ih (Entries.nodup_keys_put distinct first _)

theorem lookup_foldl_put (cache : Entries Resolution) {path : String} {hit : Resolution}
    (found : (chain.foldl (fun cache path => cache.put path ⟨path, .resolved, value⟩) cache).lookup
      path = some hit) :
    path ∈ chain ∧ hit = ⟨path, .resolved, value⟩ ∨ cache.lookup path = some hit := by
  induction chain generalizing cache with
  | nil => exact .inr found
  | cons first rest ih =>
    rcases ih _ found with ⟨later, same⟩ | before
    · exact .inl ⟨List.mem_cons_of_mem first later, same⟩
    · by_cases same : path = first
      · subst same
        rw [Entries.lookup_put_self] at before
        exact .inl ⟨List.mem_cons_self, (Option.some.inj before).symm⟩
      · rw [Entries.lookup_put_of_ne cache _ same] at before
        exact .inr before

end

/-- The second cache holds what the first one holds and, of the paths that are gained, the
resolved ones. -/
structure Gains (graph : Graph) (memoize : Bool) (gained : String → Prop)
    (cache cache' : Entries Resolution) : Prop where
  sound : Sound graph cache'
  mem_keys : ∀ path, path ∈ cache'.keys ↔
    path ∈ cache.keys ∨ memoize = true ∧ (graph.answer path).1 = .resolved ∧ gained path

theorem gains_nothing (sound : Sound graph cache) {gained : String → Prop}
    (known : ∀ path, (graph.answer path).1 = .resolved → gained path → path ∈ cache.keys) :
    Gains graph memoize gained cache cache where
  sound := sound
  mem_keys path :=
    (or_iff_left_of_imp fun ⟨_, resolves, gain⟩ => known path resolves gain).symm

theorem Gains.congr {gained gained' : String → Prop} {cache' : Entries Resolution}
    (gains : Gains graph memoize gained cache cache')
    (same : ∀ path, (graph.answer path).1 = .resolved → (gained path ↔ gained' path)) :
    Gains graph memoize gained' cache cache' where
  sound := gains.sound
  mem_keys path := by
    rw [gains.mem_keys]
    exact or_congr_right (and_congr_right fun _ => and_congr_right (same path))

theorem Gains.trans {gained gained' : String → Prop} {cache' cache'' : Entries Resolution}
    (first : Gains graph memoize gained cache cache')
    (second : Gains graph memoize gained' cache' cache'') :
    Gains graph memoize (fun path => gained path ∨ gained' path) cache cache'' where
  sound := second.sound
  mem_keys path := by
    rw [second.mem_keys, first.mem_keys, or_assoc, ← and_or_left, ← and_or_left]

/-- A chain gains its own paths when they resolve just as the chain does. -/
theorem gains_keepChain (sound : Sound graph cache) {chain : List String} {answer : Status × Value}
    (settles : ∀ path ∈ chain, (graph.answer path).1 = .resolved ∨ answer.1 = .resolved →
      graph.answer path = answer)
    (follows : memoize = true → answer.1 = .resolved → ∀ path ∈ chain, ∀ target,
      graph.Refers path target → target ∈ chain ∨ target ∈ cache.keys) :
    Gains graph memoize (· ∈ chain) cache (keepChain memoize chain answer cache) := by
  unfold keepChain
  split
  · next kept =>
    obtain ⟨memoizes, success⟩ := kept
    have resolves (path : String) (member : path ∈ chain) : graph.answer path = answer :=
      settles path member (.inr success)
    refine ⟨⟨nodup_keys_foldl_put chain answer.2 sound.distinct, ?_, ?_⟩, ?_⟩
    · intro path hit found
      rcases lookup_foldl_put chain answer.2 cache found with ⟨member, rfl⟩ | before
      · rw [Graph.resolutionOf, resolves path member, ← success]
        exact ⟨rfl, rfl⟩
      · exact sound.answers path hit before
    · intro path known target refers
      rw [mem_keys_foldl_put] at known ⊢
      rcases known with member | before
      · exact follows memoizes success path member target refers
      · exact .inr (sound.closed path before target refers)
    · intro path
      rw [mem_keys_foldl_put, or_comm]
      refine or_congr_right ⟨fun member => ⟨memoizes, ?_, member⟩, fun gain => gain.2.2⟩
      rw [resolves path member, success]
  · next lost =>
    refine ⟨sound, fun path => (or_iff_left ?_).symm⟩
    rintro ⟨memoizes, success, member⟩
    rw [settles path member (.inl success)] at success
    exact lost ⟨memoizes, success⟩

end DesignTokens.Machine
