import DesignTokens.Proofs.Tree.Children

/-! Paths of tokens. As long as no key on the way holds a slash, a path can be taken apart
again, and a walk comes to no path twice. -/
namespace DesignTokens

def IsPlainKey (key : String) : Prop := '/' ∉ key.toList

instance (key : String) : Decidable (IsPlainKey key) := inferInstanceAs (Decidable (_ ∉ _))

private theorem splitAtSlashes_plain {key : List Char} (plain : '/' ∉ key) :
    splitAtSlashes key = [key] := by
  induction key with
  | nil => rfl
  | cons c rest ih =>
    obtain ⟨different, plain⟩ := not_or.mp (mt List.mem_cons.mpr plain)
    rw [splitAtSlashes, if_neg (Ne.symm different), ih plain]

private theorem splitAtSlashes_append {key : List Char} (plain : '/' ∉ key) (rest : List Char) :
    splitAtSlashes (key ++ '/' :: rest) = key :: splitAtSlashes rest := by
  induction key with
  | nil => rw [List.nil_append, splitAtSlashes, if_pos rfl]
  | cons c others ih =>
    obtain ⟨different, plain⟩ := not_or.mp (mt List.mem_cons.mpr plain)
    rw [List.cons_append, splitAtSlashes, if_neg (Ne.symm different), ih plain]

theorem splitAtSlashes_joinPath {segments : List String} (some : segments ≠ [])
    (plain : ∀ key ∈ segments, IsPlainKey key) :
    splitAtSlashes (joinPath segments).toList = segments.map String.toList := by
  rw [joinPath, String.toList_intercalate]
  induction segments with
  | nil => contradiction
  | cons key rest ih =>
    obtain ⟨first, plain⟩ := List.forall_mem_cons.mp plain
    cases rest with
    | nil => rw [List.map_singleton, List.intercalate_singleton, splitAtSlashes_plain first]
    | cons next rest =>
      have slash : "/".toList = ['/'] := rfl
      rw [slash] at ih ⊢
      rw [List.map_cons, List.map_cons, List.intercalate_cons_cons, ← List.map_cons,
        List.append_assoc, List.singleton_append, splitAtSlashes_append first,
        ih (List.cons_ne_nil next rest) plain]

theorem joinPath_inj {left right : List String} (some : left ≠ []) (some' : right ≠ [])
    (plain : ∀ key ∈ left, IsPlainKey key) (plain' : ∀ key ∈ right, IsPlainKey key)
    (same : joinPath left = joinPath right) : left = right := by
  have split := splitAtSlashes_joinPath some plain
  rw [same, splitAtSlashes_joinPath some' plain'] at split
  exact (List.map_injective_iff.mpr (fun _ _ => String.toList_inj.mp) split).symm

namespace Tree

variable {settings : Settings}

/-- The leaves that a walk of a mapping meets, under their keys. -/
def leaves (settings : Settings) (fields : Entries Value) : List Child :=
  (childrenBelow settings [] fields).filter fun child => classify settings child.node = .leaf

def Child.token (settings : Settings) (child : Child) : Token :=
  tokenAt settings child.segments (fieldsOf (some child.node))

theorem tokens_eq (settings : Settings) (fields : Entries Value) :
    tokens settings (.object fields) = (leaves settings fields).map (Child.token settings) := by
  rw [tokens, walk_eq_filterMap, leaves]
  induction childrenBelow settings [] fields with
  | nil => rfl
  | cons child rest ih =>
    cases kind : classify settings child.node <;>
      simp [List.filterMap_cons, Child.visit?, kind, Visit.token?, ih, Child.token]

section

variable {fields : Entries Value} (h : (Value.object fields).isWellKeyed = true)

include h

theorem mem_leaves_iff_met {child : Child} : child ∈ leaves settings fields ↔
    Met settings (.object fields) child.segments child.node ∧
      classify settings child.node = .leaf := by
  rw [leaves, List.mem_filter, decide_eq_true_iff, mem_childrenBelow_iff _ rfl h]
  simp

theorem nodup_segments_leaves : ((leaves settings fields).map Child.segments).Nodup :=
  (nodup_segments_walked h).sublist (List.filter_sublist.map _)

variable (plain : ∀ child ∈ leaves settings fields, ∀ key ∈ child.segments, IsPlainKey key)

include plain

theorem segments_token {child : Child} (member : child ∈ leaves settings fields) :
    (child.token settings).segments = child.segments := by
  obtain ⟨met, -⟩ := (mem_leaves_iff_met h).mp member
  have split := splitAtSlashes_joinPath met.ne_nil (plain child member)
  rw [Token.segments, Child.token, tokenAt, split, List.map_map]
  simp [Function.comp_def]

theorem map_segments_tokens :
    (tokens settings (.object fields)).map Token.segments =
      (leaves settings fields).map Child.segments := by
  rw [tokens_eq, List.map_map]
  exact List.map_congr_left fun child member => segments_token h plain member

/-- A path tells its segments, so that distinct leaves have distinct paths. -/
theorem nodup_paths_of_leaves : ((tokens settings (.object fields)).map Token.path).Nodup := by
  have distinct : ((leaves settings fields).map Child.segments).Nodup := nodup_segments_leaves h
  have split : Token.segments =
      (fun path : String => (splitAtSlashes path.toList).map String.ofList) ∘ Token.path := rfl
  rw [← map_segments_tokens h plain, split, ← List.map_map] at distinct
  exact distinct.of_map _

end

mutual

/-- Whether no key that a walk meets below a node holds a slash. -/
def isPlain (settings : Settings) : Value → Bool
  | .object fields =>
    match classifyFields settings fields with
    | .group => fieldsArePlain settings fields
    | _ => true
  | _ => true

def fieldsArePlain (settings : Settings) : Entries Value → Bool
  | [] => true
  | (key, child) :: rest =>
    (isReserved key || (decide (IsPlainKey key) && isPlain settings child)) &&
      fieldsArePlain settings rest

end

/-- The root is walked whatever its fields are. -/
def hasPlainKeys (settings : Settings) : Value → Bool
  | .object fields => fieldsArePlain settings fields
  | _ => true

theorem hasPlainKeys_of_group {node : Value} (group : classify settings node = .group)
    (plain : isPlain settings node = true) : hasPlainKeys settings node = true := by
  obtain ⟨fields, rfl, -⟩ := classify_eq_group_iff.mp group
  rw [classify] at group
  rwa [isPlain, group] at plain

private theorem fieldsArePlain_cons {key : String} {child : Value} {rest : Entries Value}
    (plain : fieldsArePlain settings ((key, child) :: rest) = true) :
    (isReserved key = false → IsPlainKey key ∧ isPlain settings child = true) ∧
      fieldsArePlain settings rest = true := by
  rw [fieldsArePlain, Bool.and_eq_true, Bool.or_eq_true, Bool.and_eq_true,
    decide_eq_true_iff] at plain
  exact ⟨fun met => plain.1.resolve_left (by simp [met]), plain.2⟩

theorem plain_of_mem {fields : Entries Value} (plain : fieldsArePlain settings fields = true)
    {field : String × Value} (member : field ∈ fields) (met : isReserved field.1 = false) :
    IsPlainKey field.1 ∧ isPlain settings field.2 = true := by
  induction fields with
  | nil => exact absurd member List.not_mem_nil
  | cons first rest ih =>
    obtain ⟨here, later⟩ := fieldsArePlain_cons plain
    rcases List.mem_cons.mp member with rfl | member
    · exact here met
    · exact ih later member

theorem Met.isPlainKey {tree node : Value} {segments : List String}
    (met : Met settings tree segments node) (plain : hasPlainKeys settings tree = true) :
    ∀ key ∈ segments, IsPlainKey key := by
  induction met with
  | child found unreserved =>
    obtain ⟨here, -⟩ := plain_of_mem plain (Entries.mem_of_lookup found) unreserved
    exact List.forall_mem_singleton.mpr here
  | deeper found unreserved opens inside ih =>
    obtain ⟨here, below⟩ := plain_of_mem plain (Entries.mem_of_lookup found) unreserved
    exact List.forall_mem_cons.mpr ⟨here, ih (hasPlainKeys_of_group opens below)⟩

/-- A walk comes to no path twice. -/
theorem nodup_paths_tokens {tree : Value} (h : tree.isWellKeyed = true)
    (plain : hasPlainKeys settings tree = true) :
    ((tokens settings tree).map Token.path).Nodup := by
  cases tree with
  | object fields =>
    apply nodup_paths_of_leaves h
    intro child member
    exact ((mem_leaves_iff_met h).mp member).1.isPlainKey plain
  | _ => exact List.nodup_nil

end Tree

end DesignTokens
