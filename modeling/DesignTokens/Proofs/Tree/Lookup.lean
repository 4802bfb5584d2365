import DesignTokens.Proofs.Tree.Children
import DesignTokens.Proofs.Tree.Paths

/-! The walk and the look-up of one leaf. Main statement: where no key holds a slash, a walk
yields a token at a path exactly when a look-up along its keys comes to a leaf, no key is reserved
and every node on the way is a group. -/
namespace DesignTokens

namespace Value

mutual

/-- The keys of all objects inside, at any depth. -/
def keysWithin : Value → List String
  | .list items => keysWithinItems items
  | .object fields => keysWithinFields fields
  | _ => []

def keysWithinItems : List Value → List String
  | [] => []
  | item :: rest => keysWithin item ++ keysWithinItems rest

def keysWithinFields : Entries Value → List String
  | [] => []
  | (key, item) :: rest => key :: keysWithin item ++ keysWithinFields rest

end

theorem mem_keysWithin_of_lookup {fields : Entries Value} {key : String} {inner : Value}
    (found : fields.lookup key = some inner) :
    key ∈ (object fields).keysWithin ∧ inner.keysWithin ⊆ (object fields).keysWithin := by
  rw [keysWithin]
  have held := Entries.mem_of_lookup found
  clear found
  induction fields with
  | nil => contradiction
  | cons field rest ih =>
    rw [keysWithinFields]
    rcases List.mem_cons.mp held with rfl | later
    · simp
    · obtain ⟨known, inside⟩ := ih later
      exact ⟨List.mem_append_right _ known, List.subset_append_of_subset_right _ inside⟩

private theorem exists_object_of_field? {value inner : Value} {key : String}
    (found : value.field? key = some inner) :
    ∃ fields : Entries Value, value = .object fields ∧ fields.lookup key = some inner := by
  cases value with
  | object fields => exact ⟨fields, rfl, found⟩
  | _ => contradiction

end Value

namespace Tree

variable {settings : Settings}

theorem nodeAt?_cons_eq_some_iff {tree node : Value} {key : String} {rest : List String} :
    nodeAt? tree (key :: rest) = some node ↔ ∃ (fields : Entries Value) (inner : Value),
      tree = .object fields ∧ fields.lookup key = some inner ∧ nodeAt? inner rest = some node := by
  rw [nodeAt?, Option.bind_eq_some_iff]
  constructor
  · rintro ⟨inner, found, below⟩
    obtain ⟨fields, rfl, found⟩ := Value.exists_object_of_field? found
    exact ⟨fields, inner, rfl, found, below⟩
  · rintro ⟨fields, inner, rfl, found, below⟩
    exact ⟨inner, found, below⟩

private theorem mem_keysWithin_of_nodeAt? {tree node : Value} {segments : List String}
    (found : nodeAt? tree segments = some node) : ∀ key ∈ segments, key ∈ tree.keysWithin := by
  induction segments generalizing tree with
  | nil => simp
  | cons key rest ih =>
    obtain ⟨fields, inner, rfl, held, below⟩ := nodeAt?_cons_eq_some_iff.mp found
    obtain ⟨known, inside⟩ := Value.mem_keysWithin_of_lookup held
    exact List.forall_mem_cons.mpr ⟨known, fun other later => inside (ih below other later)⟩

theorem isPlainKey_of_nodeAt? {tree node : Value} {segments : List String}
    (plain : ∀ key ∈ tree.keysWithin, IsPlainKey key) (found : nodeAt? tree segments = some node) :
    ∀ key ∈ segments, IsPlainKey key :=
  fun key known => plain key (mem_keysWithin_of_nodeAt? found key known)

theorem leafAt?_eq_some_iff {tree leaf : Value} {segments : List String} :
    leafAt? settings tree segments = some leaf ↔
      nodeAt? tree segments = some leaf ∧ classify settings leaf = .leaf := by
  rw [leafAt?, Option.filter_eq_some_iff, decide_eq_true_iff]

/-- Each proper part of the way, from its first key on, leads to a group. -/
def ThroughGroups (settings : Settings) (tree : Value) (segments : List String) : Prop :=
  ∀ front, front ≠ [] → front <+: segments → front ≠ segments →
    ∃ node, nodeAt? tree front = some node ∧ classify settings node = .group

theorem throughGroups_cons_iff {fields : Entries Value} {key : String} {inner : Value}
    {rest : List String} (found : fields.lookup key = some inner) :
    ThroughGroups settings (.object fields) (key :: rest) ↔
      (rest ≠ [] → classify settings inner = .group) ∧ ThroughGroups settings inner rest := by
  have below (front : List String) :
      nodeAt? (.object fields) (key :: front) = nodeAt? inner front := by
    rw [nodeAt?, Value.field?, found]
    rfl
  constructor
  · intro through
    constructor
    · intro more
      obtain ⟨node, here, group⟩ := through [key] (by simp) (by simp) (by simpa using more.symm)
      obtain rfl := Option.some.inj ((below []).symm.trans here)
      exact group
    · intro front nonempty leads different
      rw [← below]
      exact through (key :: front) (by simp) (by simpa using leads) (by simpa using different)
  · rintro ⟨opens, through⟩ front nonempty leads different
    cases front with
    | nil => contradiction
    | cons first front =>
      obtain ⟨rfl, beyond⟩ := List.cons_prefix_cons.mp leads
      rw [below]
      by_cases last : front = []
      · subst last
        exact ⟨inner, rfl, opens fun empty => different (by rw [empty])⟩
      · exact through front last beyond fun same => different (by rw [same])

theorem met_iff {tree node : Value} {segments : List String} :
    Met settings tree segments node ↔ segments ≠ [] ∧ nodeAt? tree segments = some node ∧
      (∀ key ∈ segments, isReserved key = false) ∧ ThroughGroups settings tree segments := by
  induction segments generalizing tree with
  | nil => exact ⟨fun met => absurd rfl met.ne_nil, fun all => absurd rfl all.1⟩
  | cons key rest ih =>
    rw [nodeAt?_cons_eq_some_iff, List.forall_mem_cons]
    constructor
    · intro met
      cases met with
      | @child fields _ _ found plain =>
        refine ⟨by simp, ⟨fields, node, rfl, found, rfl⟩, ⟨plain, by simp⟩, ?_⟩
        refine (throughGroups_cons_iff found).mpr ⟨fun more => absurd rfl more, ?_⟩
        intro front nonempty leads
        exact absurd (List.prefix_nil.mp leads) nonempty
      | @deeper fields _ group _ _ found plain opens inside =>
        obtain ⟨-, below, others, through⟩ := ih.mp inside
        exact ⟨by simp, ⟨fields, group, rfl, found, below⟩, ⟨plain, others⟩,
          (throughGroups_cons_iff found).mpr ⟨fun _ => opens, through⟩⟩
    · rintro ⟨-, ⟨fields, inner, rfl, found, below⟩, ⟨plain, others⟩, through⟩
      obtain ⟨opens, through⟩ := (throughGroups_cons_iff found).mp through
      by_cases last : rest = []
      · subst last
        obtain rfl := Option.some.inj below
        exact .child found plain
      · exact .deeper found plain (opens last) (ih.mpr ⟨last, below, others, through⟩)

section

variable {fields : Entries Value} (h : (Value.object fields).isWellKeyed = true)

include h

theorem mem_leaves_iff {child : Child} :
    child ∈ leaves settings fields ↔ child.segments ≠ [] ∧
      leafAt? settings (.object fields) child.segments = some child.node ∧
      (∀ key ∈ child.segments, isReserved key = false) ∧
      ThroughGroups settings (.object fields) child.segments := by
  rw [mem_leaves_iff_met h, met_iff, leafAt?_eq_some_iff]
  tauto

variable (plain : ∀ key ∈ (Value.object fields).keysWithin, IsPlainKey key)

include plain

theorem plain_of_mem_leaves : ∀ child ∈ leaves settings fields,
    ∀ key ∈ child.segments, IsPlainKey key := by
  intro child member
  obtain ⟨-, found, -⟩ := (mem_leaves_iff h).mp member
  exact isPlainKey_of_nodeAt? plain (leafAt?_eq_some_iff.mp found).1

/-- A token at a path whose keys are plain comes from the leaf under these keys. -/
theorem exists_leaf_of_path {token : Token} (member : token ∈ tokens settings (.object fields))
    {segments : List String} (nonempty : segments ≠ []) (keys : ∀ key ∈ segments, IsPlainKey key)
    (same : token.path = joinPath segments) :
    ∃ node, ⟨segments, node⟩ ∈ leaves settings fields ∧
      token = Child.token settings ⟨segments, node⟩ := by
  rw [tokens_eq] at member
  obtain ⟨⟨leads, node⟩, among, rfl⟩ := List.mem_map.mp member
  obtain ⟨nonempty', -⟩ := (mem_leaves_iff h).mp among
  obtain rfl := joinPath_inj nonempty' nonempty (plain_of_mem_leaves h plain _ among) keys same
  exact ⟨node, among, rfl⟩

theorem exists_token_iff {segments : List String} (nonempty : segments ≠ []) :
    (∃ token ∈ tokens settings (.object fields), token.path = joinPath segments) ∧
        (∀ key ∈ segments, IsPlainKey key) ↔
      (∃ leaf, leafAt? settings (.object fields) segments = some leaf) ∧
        (∀ key ∈ segments, isReserved key = false) ∧
        ThroughGroups settings (.object fields) segments := by
  constructor
  · rintro ⟨⟨token, member, same⟩, keys⟩
    obtain ⟨node, among, -⟩ := exists_leaf_of_path h plain member nonempty keys same
    obtain ⟨-, found, unreserved, through⟩ := (mem_leaves_iff h).mp among
    exact ⟨⟨node, found⟩, unreserved, through⟩
  · rintro ⟨⟨leaf, found⟩, unreserved, through⟩
    have among : ⟨segments, leaf⟩ ∈ leaves settings fields :=
      (mem_leaves_iff h).mpr ⟨nonempty, found, unreserved, through⟩
    refine ⟨⟨Child.token settings ⟨segments, leaf⟩, ?_, rfl⟩, plain_of_mem_leaves h plain _ among⟩
    rw [tokens_eq]
    exact List.mem_map_of_mem among

/-- The token and the look-up under its path speak of one leaf. -/
theorem exists_data_of_path {token : Token} (member : token ∈ tokens settings (.object fields))
    {segments : List String} (nonempty : segments ≠ []) (same : token.path = joinPath segments)
    {leaf : Value} (found : leafAt? settings (.object fields) segments = some leaf) :
    ∃ data : Entries Value, leaf = .object data ∧
      data.lookup settings.typeKey = some (.str token.type) ∧
      data.lookup settings.valueKey = some token.value := by
  obtain ⟨there, kind⟩ := leafAt?_eq_some_iff.mp found
  have keys := isPlainKey_of_nodeAt? plain there
  obtain ⟨node, among, rfl⟩ := exists_leaf_of_path h plain member nonempty keys same
  obtain rfl := Option.some.inj (found.symm.trans ((mem_leaves_iff h).mp among).2.1)
  obtain ⟨data, -, -, rfl, -⟩ := classify_eq_leaf_iff.mp kind
  exact ⟨data, rfl, lookup_of_leaf kind segments⟩

end

/-- Walking and looking up agree: where a look-up leads through groups by keys that are not
reserved it finds a leaf exactly if the walk yields a token there, by keys without a slash. -/
theorem walk_agrees_with_lookup (settings : Settings) {fields : Entries Value}
    (h : (Value.object fields).isWellKeyed = true)
    (plain : ∀ key ∈ (Value.object fields).keysWithin, IsPlainKey key) :
    ((tokens settings (.object fields)).map Token.path).Nodup ∧
      (tokens settings (.object fields)).map Token.segments =
        (leaves settings fields).map Child.segments ∧
      ∀ segments, segments ≠ [] →
        ((∃ token ∈ tokens settings (.object fields), token.path = joinPath segments) ∧
            (∀ key ∈ segments, IsPlainKey key) ↔
          (∃ leaf, leafAt? settings (.object fields) segments = some leaf) ∧
            (∀ key ∈ segments, isReserved key = false) ∧
            ThroughGroups settings (.object fields) segments) ∧
        ∀ token ∈ tokens settings (.object fields), token.path = joinPath segments → ∀ leaf,
          leafAt? settings (.object fields) segments = some leaf →
          ∃ data : Entries Value, leaf = .object data ∧
            data.lookup settings.typeKey = some (.str token.type) ∧
            data.lookup settings.valueKey = some token.value := by
  have keyed : ∀ child ∈ leaves settings fields, ∀ key ∈ child.segments, IsPlainKey key :=
    plain_of_mem_leaves h plain
  refine ⟨nodup_paths_of_leaves h keyed, map_segments_tokens h keyed, ?_⟩
  intro segments nonempty
  constructor
  · exact exists_token_iff h plain nonempty
  · intro token member same leaf found
    exact exists_data_of_path h plain member nonempty same found

/-- Leaves under keys without a character, one of them reserved, one inside a leaf. -/
def unnamed : Entries Value :=
  let leaf (more : Entries Value) :=
    Value.object (("$type", .str "color") :: ("$value", .null) :: more)
  [("a", .object [("", leaf [("b", leaf [])]), ("$", leaf [])]), ("", leaf [])]

theorem walk_agrees_with_lookup_unnamed :
    (Value.object unnamed).isWellKeyed = true ∧
      (∀ key ∈ (Value.object unnamed).keysWithin, IsPlainKey key) ∧
      ((tokens {} (.object unnamed)).map Token.path).Nodup ∧
      (tokens {} (.object unnamed)).map Token.segments = [["a", ""], [""]] ∧
      (∃ token ∈ tokens {} (.object unnamed), token.path = "a/") ∧
      ThroughGroups {} (.object unnamed) ["a", ""] ∧
      (leafAt? {} (.object unnamed) ["a", "", "b"]).isSome = true ∧
      ¬ ThroughGroups {} (.object unnamed) ["a", "", "b"] := by
  have h : (Value.object unnamed).isWellKeyed = true := by decide
  have plain : ∀ key ∈ (Value.object unnamed).keysWithin, IsPlainKey key := by decide
  obtain ⟨distinct, segments, agree⟩ := walk_agrees_with_lookup {} h plain
  have yielded : ∃ token ∈ tokens {} (.object unnamed), token.path = "a/" := by
    rw [tokens_eq]
    decide
  have missing : ¬ ∃ token ∈ tokens {} (.object unnamed), token.path = "a//b" := by
    rw [tokens_eq]
    decide
  have opens := ((agree ["a", ""] (by decide)).1.mp ⟨yielded, by decide⟩).2.2
  refine ⟨h, plain, distinct, segments, yielded, opens, by decide, fun through => missing ?_⟩
  exact ((agree ["a", "", "b"] (by decide)).1.mpr ⟨⟨_, rfl⟩, by decide, through⟩).1

/-- A slash in a key that is looked up counts as part of the key, while in a path it divides. -/
theorem slashed_segment_unfound :
    let tree := Value.object [("a", .object [("b", .object [("$type", .str "color"),
      ("$value", .str "#36f")])])]
    tree.isWellKeyed = true ∧ (∀ key ∈ tree.keysWithin, IsPlainKey key) ∧
      ¬ ((∃ token ∈ tokens {} tree, token.path = joinPath ["a/b"]) ↔
        (∃ leaf, leafAt? {} tree ["a/b"] = some leaf) ∧
          (∀ key ∈ ["a/b"], isReserved key = false) ∧ ThroughGroups {} tree ["a/b"]) := by
  intro tree
  refine ⟨by decide, by decide, fun agrees => ?_⟩
  have yielded : ∃ token ∈ tokens {} tree, token.path = joinPath ["a/b"] := by
    rw [tokens_eq]
    decide
  obtain ⟨⟨leaf, found⟩, -⟩ := agrees.mp yielded
  contradiction

end Tree

end DesignTokens
