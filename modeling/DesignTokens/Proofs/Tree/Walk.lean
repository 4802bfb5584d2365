import DesignTokens.Tree

/-! The walk with a stack of open groups is the walk by recursion. -/
namespace DesignTokens.Tree

section

variable {settings : Settings} {segments : List String} {fields : Entries Value}

theorem visitsOf_leaf (leaf : classify settings (.object fields) = .leaf) :
    visitsOf settings segments (.object fields) = [.token (tokenAt settings segments fields)] := by
  rw [classify] at leaf
  simp only [visitsOf, leaf]

theorem visitsOf_group (group : classify settings (.object fields) = .group) :
    visitsOf settings segments (.object fields) = visitsBelow settings segments fields := by
  rw [classify] at group
  simp only [visitsOf, group]

theorem visitsOf_malformed {node : Value} {reason : String}
    (malformed : classify settings node = .malformed reason) :
    visitsOf settings segments node = [.skipped ⟨joinPath segments, reason⟩] := by
  cases node with
  | object fields =>
    rw [classify] at malformed
    simp only [visitsOf, malformed]
  | _ => simp only [visitsOf, malformed]

end

/-- The stack is worked off from the innermost group outward, each group as by recursion. -/
theorem walkStack_eq (settings : Settings) (stack : List OpenGroup) :
    walkStack settings stack =
      stack.flatMap fun group => visitsBelow settings group.segments group.children := by
  fun_induction walkStack settings stack with
  | case1 => rfl
  | case2 segments outer ih => rw [ih, List.flatMap_cons, visitsBelow, List.nil_append]
  | case3 above key child rest outer reserved ih =>
    rw [ih, List.flatMap_cons, List.flatMap_cons, visitsBelow, if_pos reserved, List.nil_append]
  | case4 above key rest outer plain fields leaf ih =>
    rw [leaf, List.flatMap_cons, visitsBelow, if_neg plain, visitsOf_leaf leaf]
    exact congrArg (_ :: ·) ih
  | case5 above key rest outer plain fields group ih =>
    rw [group, List.flatMap_cons, visitsBelow, if_neg plain, visitsOf_group group,
      List.append_assoc]
    exact ih
  | case6 above key child rest outer plain reason malformed ih =>
    rw [List.flatMap_cons, visitsBelow, if_neg plain, visitsOf_malformed malformed, malformed]
    cases child <;> exact congrArg (_ :: ·) ih
  | case7 above key child rest outer plain noReason noLeaf noGroup ih =>
    cases child with
    | object fields =>
      cases kind : classify settings (.object fields) with
      | leaf => exact absurd kind (noLeaf fields rfl)
      | group => exact absurd kind (noGroup fields rfl)
      | malformed reason => exact absurd kind (noReason reason)
    | _ => exact absurd rfl (noReason _)

theorem walk_object (settings : Settings) (fields : Entries Value) :
    walk settings (.object fields) = visitsBelow settings [] fields := by
  rw [walk, walkStack_eq, List.flatMap_singleton]

end DesignTokens.Tree
