import DesignTokens.CommandLine

/-! Words of a command line. A path that is asked for in front of the others changes nothing
else. -/
namespace DesignTokens.CommandLine

theorem invocation?_resolve (words : List String) :
    invocation? ("resolve" :: words) = resolve? words := by
  simp [invocation?, command?]

theorem invocation?_cycles (words : List String) :
    invocation? ("cycles" :: words) = cycles? words := by
  simp [invocation?, command?]

namespace Given

theorem ofWords?_path (path : String) (words : List String) :
    ofWords? resolveSwitches ("--path" :: path :: words) =
      (ofWords? resolveSwitches words).map (·.addSwitches [(.path, path)]) := by
  have switch : switchWord resolveSwitches "--path".toList = some ([], some .path) := by decide
  rw [ofWords?.eq_def]
  dsimp only
  rw [if_neg (by decide), if_pos (by decide), switch]
  rfl

theorem all_eq_nil_of_has {given : Given} {switch : Switch} (without : given.has switch = false) :
    given.all switch = [] := by
  rw [all, List.map_eq_nil_iff, List.filter_eq_nil_iff]
  intro found known same
  rw [has, List.any_eq_false] at without
  exact without found known same

-- What stands in front of the other words shows in its own switch only.
section

variable {given : Given} {switch other : Switch} (different : other ≠ switch) (word : String)

include different

theorem has_addSwitches_of_ne :
    (given.addSwitches [(switch, word)]).has other = given.has other := by
  simp [has, addSwitches, different.symm]

theorem last?_addSwitches_of_ne :
    (given.addSwitches [(switch, word)]).last? other = given.last? other := by
  simp [last?, all, addSwitches, different.symm]

end

private theorem last?_addSwitches_self {given : Given} {switch : Switch}
    (without : given.has switch = false) (word : String) :
    (given.addSwitches [(switch, word)]).last? switch = some word := by
  have others := all_eq_nil_of_has without
  rw [all, List.map_eq_nil_iff] at others
  simp [last?, all, addSwitches, others]

end Given

/-- A path put in front of words without one asks for it and changes nothing else. -/
theorem resolve?_path {words : List String} {given : Given} {options : ResolveOptions}
    {verbose : Bool} (read : Given.ofWords? resolveSwitches words = some given)
    (pathless : given.has .path = false)
    (called : resolve? words = some ⟨.resolve options, verbose⟩) :
    options.path = none ∧ ∀ path, path ≠ "" →
      resolve? ("--path" :: path :: words) =
        some ⟨.resolve { options with path := some path }, verbose⟩ := by
  have none : given.last? .path = .none := by
    rw [Given.last?, Given.all_eq_nil_of_has pathless]
    rfl
  rw [resolve?, read, Option.bind_eq_bind, Option.bind_some] at called
  split at called
  · cases called
  · next helpless =>
    obtain ⟨files, named, called⟩ := Option.bind_eq_some_iff.mp called
    obtain ⟨save, saved, called⟩ := Option.bind_eq_some_iff.mp called
    obtain ⟨config, configured, called⟩ := Option.bind_eq_some_iff.mp called
    obtain rfl := Command.resolve.inj (congrArg Invocation.command (Option.some.inj called))
    obtain rfl := congrArg Invocation.verbose (Option.some.inj called)
    refine ⟨by rw [none]; rfl, fun path some => ?_⟩
    have savedHere : pathOption? (given.addSwitches [(.path, path)]) .save = .some save := by
      rw [pathOption?, Given.last?_addSwitches_of_ne (by decide)]
      exact saved
    have configuredHere :
        pathOption? (given.addSwitches [(.path, path)]) .config = .some config := by
      rw [pathOption?, Given.last?_addSwitches_of_ne (by decide)]
      exact configured
    have namedHere : files? (given.addSwitches [(.path, path)]) = .some files := named
    rw [resolve?, Given.ofWords?_path, read, Option.map_some, Option.bind_eq_bind, Option.bind_some,
      Given.has_addSwitches_of_ne (by decide), if_neg helpless, namedHere, savedHere,
      configuredHere]
    simp [some, Given.last?_addSwitches_self pathless, Given.has_addSwitches_of_ne, outputOption,
      Given.last?_addSwitches_of_ne]

end DesignTokens.CommandLine
