import DesignTokens.Proofs.Duplicate
import DesignTokens.Proofs.Entries.Gather
import DesignTokens.Proofs.Resolver.History

/-! Groups of duplicates are the classes of the tokens that count with one key, the larger
first, whatever the resolver was used for before. -/
namespace DesignTokens

/-- Sorting keeps the order of items that rank alike. -/
theorem pairwise_mergeSort_stable {α : Type} {le : α → α → Bool} {before : α → α → Prop}
    (trans : ∀ a b c, le a b = true → le b c = true → le a c = true)
    (total : ∀ a b, (le a b || le b a) = true) {items : List α} (ordered : items.Pairwise before) :
    (items.mergeSort le).Pairwise fun a b => le a b = true ∧ (le b a = true → before a b) := by
  induction items with
  | nil => simp
  | cons item rest ih =>
    obtain ⟨first, rest_ordered⟩ := List.pairwise_cons.mp ordered
    obtain ⟨left, right, sorted, sorted_rest, apart⟩ := List.mergeSort_cons trans total item rest
    have ranks := List.pairwise_mergeSort trans total (item :: rest)
    have kept := ih rest_ordered
    rw [sorted] at ranks ⊢
    rw [sorted_rest] at kept
    obtain ⟨kept_left, kept_right, across⟩ := List.pairwise_append.mp kept
    obtain ⟨-, ranks_right, -⟩ := List.pairwise_append.mp ranks
    refine List.pairwise_append.mpr ⟨kept_left, List.pairwise_cons.mpr ⟨?_, kept_right⟩, ?_⟩
    · -- What comes after the item comes from the rest.
      intro other member
      have known : other ∈ rest.mergeSort le := sorted_rest ▸ List.mem_append_right left member
      exact ⟨List.rel_of_pairwise_cons ranks_right member,
        fun _ => first other (List.mem_mergeSort.mp known)⟩
    · intro other member last known
      rcases List.mem_cons.mp known with same | later
      · -- What the item was put behind ranks truly before it.
        subst same
        have lower : le last other = false := by simpa using apart other member
        have upper : le other last = true := by simpa [lower] using total other last
        exact ⟨upper, fun higher => absurd (lower.symm.trans higher) Bool.false_ne_true⟩
      · exact across other member last later

namespace Duplicate

/-- The paths of the tokens with one key, in the order of the tokens. -/
def classOf (key : Token → String) (tokens : List Token) (value : String) : List String :=
  (tokens.filter (key · = value)).map Token.path

/-- The groups are the classes of two tokens or more. -/
structure AreClasses (key : Token → String) (tokens : List Token) (groups : List DuplicateGroup) :
    Prop where
  mem_iff : ∀ group, group ∈ groups ↔
    group.tokens = classOf key tokens group.value ∧ 2 ≤ group.tokens.length
  /-- Every token that shares its key counts in one group, that of its key. -/
  placed : ∀ token ∈ tokens, 2 ≤ (classOf key tokens (key token)).length →
    token.path ∈ classOf key tokens (key token) ∧
      ∃! group, group ∈ groups ∧ group.value = key token
  once : (groups.map DuplicateGroup.value).Nodup
  larger_first : groups.Pairwise fun group later => later.tokens.length ≤ group.tokens.length
  /-- Of two groups of one size that comes first whose first token does. -/
  earlier_first : groups.Pairwise fun group later =>
    group.tokens.length = later.tokens.length →
      (tokens.map key).idxOf group.value < (tokens.map key).idxOf later.value

section

variable (key : Token → String) (tokens : List Token)

theorem gatheredBy_eq :
    gatheredBy key tokens =
      (tokens.map key).eraseDups.map fun value => (value, classOf key tokens value) := by
  have pairs : gatheredBy key tokens =
      (tokens.map fun token => (key token, token.path)).foldl
        (fun groups pair => Entries.gather pair.1 pair.2 groups) [] := by
    rw [List.foldl_map]
    rfl
  have keys : Entries.keys (tokens.map fun token => (key token, token.path)) = tokens.map key := by
    rw [Entries.keys, List.map_map]
    rfl
  have items (value : String) :
      Entries.itemsUnder value (tokens.map fun token => (key token, token.path)) =
        classOf key tokens value := by
    rw [Entries.itemsUnder, List.filter_map, List.map_map]
    rfl
  rw [pairs, Entries.foldl_gather_eq, keys]
  simp only [items]

/-- The groups before they are ranked, in the order of their first tokens. -/
theorem ranked_gatheredBy :
    ranked (gatheredBy key tokens) =
      ((((tokens.map key).eraseDups.filter fun value =>
        2 ≤ (classOf key tokens value).length).map fun value =>
          (⟨value, classOf key tokens value⟩ : DuplicateGroup))).mergeSort
        fun a b => decide (b.tokens.length ≤ a.tokens.length) := by
  rw [ranked, gatheredBy_eq, List.filter_map, List.map_map]
  rfl

theorem pairwise_idxOf_unranked :
    (((tokens.map key).eraseDups.filter fun value =>
      2 ≤ (classOf key tokens value).length).map fun value =>
        (⟨value, classOf key tokens value⟩ : DuplicateGroup)).Pairwise
      fun group later =>
        (tokens.map key).idxOf group.value < (tokens.map key).idxOf later.value := by
  rw [List.pairwise_map]
  exact (Entries.pairwise_idxOf_eraseDups (tokens.map key)).filter _

theorem mem_classOf {value path : String} :
    path ∈ classOf key tokens value ↔ ∃ token ∈ tokens, key token = value ∧ token.path = path := by
  simp [classOf, and_assoc]

private theorem mem_keys_of_classOf {value : String}
    (some : 0 < (classOf key tokens value).length) :
    value ∈ tokens.map key := by
  obtain ⟨path, member⟩ := List.exists_mem_of_length_pos some
  obtain ⟨token, known, same, -⟩ := (mem_classOf key tokens).mp member
  exact List.mem_map.mpr ⟨token, known, same⟩

theorem areClasses_ranked : AreClasses key tokens (ranked (gatheredBy key tokens)) := by
  have mem_iff (group : DuplicateGroup) : group ∈ ranked (gatheredBy key tokens) ↔
      group.tokens = classOf key tokens group.value ∧ 2 ≤ group.tokens.length := by
    rw [ranked_gatheredBy, List.mem_mergeSort, List.mem_map]
    constructor
    · rintro ⟨value, member, rfl⟩
      exact ⟨rfl, of_decide_eq_true (List.mem_filter.mp member).2⟩
    · obtain ⟨value, paths⟩ := group
      dsimp only
      rintro ⟨same, large⟩
      rw [same] at large ⊢
      have known := mem_keys_of_classOf key tokens (Nat.lt_of_lt_of_le Nat.two_pos large)
      exact ⟨value, List.mem_filter.mpr ⟨List.mem_eraseDups.mpr known, decide_eq_true large⟩, rfl⟩
  have ranks := @pairwise_mergeSort_stable DuplicateGroup
    (fun a b => decide (b.tokens.length ≤ a.tokens.length)) _
    (by simp only [decide_eq_true_iff]; omega) (by simp; omega) _
    (pairwise_idxOf_unranked key tokens)
  rw [← ranked_gatheredBy] at ranks
  have once : ((ranked (gatheredBy key tokens)).map DuplicateGroup.value).Nodup := by
    rw [ranked_gatheredBy, ((List.mergeSort_perm _ _).map _).nodup_iff, List.map_map]
    exact ((Entries.nodup_eraseDups _).filter _).map fun _ _ same => same
  refine ⟨mem_iff, ?_, once, ?_, ?_⟩
  · intro token member shared
    refine ⟨(mem_classOf key tokens).mpr ⟨token, member, rfl, rfl⟩,
      ⟨key token, classOf key tokens (key token)⟩, ⟨(mem_iff _).mpr ⟨rfl, shared⟩, rfl⟩, ?_⟩
    rintro ⟨value, paths⟩ ⟨listed, rfl : value = _⟩
    have same : paths = classOf key tokens (key token) := ((mem_iff _).mp listed).1
    rw [same]
  · exact ranks.imp fun ranked => of_decide_eq_true ranked.1
  · refine ranks.imp ?_
    intro group later ranked same
    exact ranked.2 (decide_eq_true (Nat.le_of_eq same))

end

end Duplicate

end DesignTokens
