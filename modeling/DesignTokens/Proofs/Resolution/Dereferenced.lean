import DesignTokens.Proofs.Content
import DesignTokens.Proofs.Resolution.Built

/-! What resolves refers to nothing any more, neither as a whole nor at any place inside,
wherever its parts were declared. -/
namespace DesignTokens

theorem Reference.parse?_singleton (c : Char) : parse? (String.singleton c) = none := by
  have braced : bracedPath? [c] = none := by
    unfold bracedPath?
    split <;> simp_all
  rw [parse?, String.toList_singleton, braced]
  rfl

namespace Value

variable {value : Value}

theorem ofValue?_of_references_nil (plain : value.references = []) :
    Reference.ofValue? value = none := by
  cases whole : Reference.ofValue? value with
  | none => rfl
  | some reference =>
    rw [references_of_whole whole] at plain
    contradiction

theorem sites_of_references_nil (plain : value.references = []) : value.sites = [] := by
  rw [sites_eq_references (ofValue?_of_references_nil plain), plain]

theorem classify_of_references_nil (plain : value.references = []) :
    Content.classify value [] = .concrete value := by
  rcases Content.classify_cases value with ⟨reference, sites, -⟩ | ⟨-, content⟩ |
    ⟨first, rest, -, sites, -⟩
  · rw [plain] at sites
    contradiction
  · exact content
  · rw [plain] at sites
    contradiction

private theorem references_of_mem_items {items : List Value} {child : Value}
    (plain : itemReferences 0 items = []) (member : child ∈ items) : child.references = [] := by
  apply List.eq_nil_iff_forall_not_mem.mpr
  intro site inside
  obtain ⟨step, known⟩ := exists_mem_itemReferences member 0 inside
  rw [plain] at known
  exact List.not_mem_nil known

private theorem references_of_mem_fields {fields : Entries Value} {key : String} {child : Value}
    (plain : fieldReferences fields = []) (member : (key, child) ∈ fields) :
    child.references = [] := by
  apply List.eq_nil_iff_forall_not_mem.mpr
  intro site inside
  obtain ⟨step, known⟩ := exists_mem_fieldReferences member inside
  rw [plain] at known
  exact List.not_mem_nil known

private theorem references_of_child {child : Value} {step : Step} (plain : value.references = [])
    (found : value.child step = .ok child) : child.references = [] := by
  unfold Value.child at found
  split at found
  · next items i =>
    split at found
    · next n position =>
      cases item : items[n]? with
      | none => rw [item] at found; contradiction
      | some other =>
        rw [item] at found
        obtain rfl : other = child := Except.ok.inj found
        rw [references] at plain
        exact references_of_mem_items plain (List.mem_of_getElem? item)
    · contradiction
  · next fields key =>
    cases item : fields.lookup key with
    | none => rw [item] at found; contradiction
    | some other =>
      rw [item] at found
      obtain rfl : other = child := Except.ok.inj found
      rw [references] at plain
      exact references_of_mem_fields plain (Entries.mem_of_lookup item)
  · contradiction
  · -- A character of a text is too short for a reference.
    split at found
    · next c _ =>
      obtain rfl := Except.ok.inj found
      rw [references_str, Reference.parse?_singleton]
      rfl
    · contradiction
  · contradiction

/-- By induction along the place, one step into the value at a time. -/
theorem references_of_get {item : Value} {location : Location} (plain : value.references = [])
    (found : value.get location = .ok item) : item.references = [] := by
  induction location generalizing value with
  | nil =>
    obtain rfl : value = item := Except.ok.inj found
    exact plain
  | cons step rest ih =>
    rw [get] at found
    cases inner : value.child step with
    | error e => rw [inner] at found; contradiction
    | ok child =>
      rw [inner] at found
      exact ih (references_of_child plain inner) found

end Value

namespace Graph

/-- The content of every token is told from its value and some extensions. -/
structure IsClassified (graph : Graph) : Prop where
  content : ∀ {path node}, graph.node? path = some node →
    ∃ extensions, node.content = .classify node.token.value extensions
  isWellKeyed : ∀ {path node}, graph.node? path = some node → node.token.value.isWellKeyed = true

theorem isClassified_build (settings : Settings) {trees : List Value}
    (h : ∀ tree ∈ trees, tree.isWellKeyed = true) : (build settings trees).IsClassified where
  content found := ⟨_, content_build found⟩
  isWellKeyed found := isWellKeyed_build h found

variable {graph : Graph} {path : String} {node : Node}

/-- A composite is left with its references that fail, provided that no resolved target
refers to anything. -/
theorem references_answer_of_composite (found : graph.node? path = some node)
    (h : node.token.value.isWellKeyed = true) {first : ReferenceSite} {rest : List ReferenceSite}
    (whole : Reference.ofValue? node.token.value = none)
    (sites : node.token.value.references = first :: rest)
    (content : node.content = .composite node.token.value first rest)
    (targets : ∀ site ∈ node.token.value.references,
      (graph.answer site.reference.path).1 = .resolved →
        (graph.answer site.reference.path).2.references = []) :
    (graph.answer path).2.references = node.token.value.references.filter
      (Value.fails fun reference => graph.answer reference.path) := by
  rw [answer_of_composite found content, assemble, ← sites, ← Value.sites_eq_references whole,
    Value.foldl_writeSite_sites _ whole h, Value.references_substitute targets,
    Value.sites_eq_references whole]

/-- By induction along the rule: all that a resolved token refers to resolves as well. -/
theorem IsClassified.references_of_resolved (classified : graph.IsClassified)
    (resolves : (graph.answer path).1 = .resolved) : (graph.answer path).2.references = [] := by
  have inside (visited : List String) (path : String)
      (resolves : (resolution graph visited path none).1 = .resolved) :
      (graph.answer path).2.references = [] := by
    induction visited, path using resolution_induction graph with
    | absent visited path absent =>
      rw [resolution_of_absent absent] at resolves
      contradiction
    | seen visited path node found seen =>
      rw [resolution_of_visited found seen] at resolves
      contradiction
    | step visited path node found new ih =>
      rw [status_eq_resolved_of_new found new] at resolves
      have succeeds {target : String} (refers : target ∈ node.content.targets) :
          (graph.answer target).1 = .resolved := by
        have below := resolves target ((refers_iff found).mpr refers)
        rwa [resolution_eq_answer below] at below
      have plain {target : String} (refers : target ∈ node.content.targets) :
          (graph.answer target).2.references = [] := by
        have reference := (refers_iff found).mpr refers
        exact ih target reference (resolves target reference)
      have of_alias {reference : Reference} (content : node.content = .alias reference) :
          (graph.answer path).2.references = [] := by
        have refers : reference.path ∈ node.content.targets := by
          rw [content, Content.mem_targets_alias]
        rw [answer_of_alias found content, handOn_of_resolved _ (succeeds refers)]
        exact plain refers
      obtain ⟨extensions, content⟩ := classified.content found
      rcases Content.classify_cases_of_extensions node.token.value extensions with
        ⟨reference, -, kind⟩ | ⟨target, -, -, kind⟩ | ⟨sites, kind⟩ |
        ⟨first, rest, whole, sites, kind⟩
      · exact of_alias (content.trans kind)
      · exact of_alias (content.trans kind)
      · rw [answer_of_concrete found (content.trans kind), sites]
      · have refers (site : ReferenceSite) (member : site ∈ node.token.value.references) :
            site.reference.path ∈ node.content.targets := by
          rw [content.trans kind, Content.mem_targets_composite, ← sites]
          exact ⟨site, member, rfl⟩
        rw [references_answer_of_composite found (classified.isWellKeyed found) whole sites
          (content.trans kind) fun site member _ => plain (refers site member),
          List.filter_eq_nil_iff]
        intro site member failing
        exact of_decide_eq_true failing (succeeds (refers site member))
  exact inside [] path resolves

end Graph

end DesignTokens
