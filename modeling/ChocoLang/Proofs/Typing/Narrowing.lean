import ChocoLang.Proofs.Typing.Scopes

/-!
# Narrowed variables

A variable is narrowed at a place if one of the branches around the place binds it.  In the scopes
that arise, branches bind nothing but narrowed variables, and no other frame binds a name to the
type of the absent value.  So a name that is read with that type is a narrowed variable.
-/

namespace ChocoLang

/-- Nothing in the frame is bound to the type of the absent value. -/
def Frame.Proper (frame : Frame) : Prop :=
  ∀ name binding, frame.find? name = some binding → binding.type ≠ .none

/-- Everything in the frame is narrowed. -/
def Frame.OnlyNarrows (frame : Frame) : Prop :=
  ∀ name binding, frame.find? name = some binding → binding.kind = .narrowed

theorem Frame.Proper.define {frame : Frame} (proper : frame.Proper) {binding : Binding}
    (new : binding.type ≠ .none) : (frame.define binding).Proper := by
  intro name found shape
  rw [Frame.find?_define] at shape
  split at shape
  · cases shape
    exact new
  · exact proper name found shape

theorem Frame.OnlyNarrows.forget {frame : Frame} (narrows : frame.OnlyNarrows) (name : String) :
    (frame.forget name).OnlyNarrows :=
  fun other binding found => narrows other binding (Frame.find?_of_forget found)

/-- A narrowed variable that is forgotten is not bound any more. -/
theorem Frame.OnlyNarrows.find?_forget {frame : Frame} (narrows : frame.OnlyNarrows)
    (name : String) : (frame.forget name).find? name = none := by
  unfold Frame.forget
  split
  · next binding found =>
      rw [if_pos (narrows name binding found)]
      simp [Frame.find?]
  · assumption

namespace Scope

/-- The variable is narrowed in a branch around the place. -/
def Narrows (scope : Scope) (name : String) : Prop :=
  ∃ frame ∈ scope.branches, (frame.find? name).isSome

/-- Branches bind narrowed variables, and other frames bind none. -/
structure Honest (scope : Scope) : Prop where
  /-- Branches bind nothing else. -/
  branches : ∀ frame ∈ scope.branches, frame.OnlyNarrows
  /-- Nothing else is bound to the type of the absent value. -/
  bodies : ∀ frame ∈ scope.enclosing ++ [scope.outermost], frame.Proper

/-- There are no branches, and nothing is bound to the type of the absent value. -/
structure Unbranched (scope : Scope) : Prop where
  /-- There are no branches. -/
  inner : ∀ frame ∈ scope.inner, frame.kind ≠ .branch
  /-- Nothing is bound to the type of the absent value. -/
  proper : ∀ frame ∈ scope.frames, frame.Proper

variable {scope : Scope}

/-- A name that is read with the type of the absent value is narrowed. -/
theorem Honest.narrows (honest : scope.Honest) {name : String} {binding : Binding}
    (found : scope.lookup name = some binding) (absent : binding.type = .none) :
    scope.Narrows name := by
  obtain ⟨frame, among, bound⟩ := List.exists_of_findSome?_eq_some found
  have direct : frame.find? name = some binding := by
    unfold readable? at bound
    split at bound
    · cases bound
    · exact bound
  rw [frames, ← branches_append_enclosing, List.append_assoc, List.mem_append] at among
  rcases among with branch | body
  · exact ⟨frame, branch, by simp [direct]⟩
  · exact absurd absent (honest.bodies frame body name binding direct)

/-! ## Forgetting -/

theorem forget_parts (scope : Scope) (name : String) :
    (scope.forget name).branches = scope.branches.map (·.forget name) ∧
      (scope.forget name).enclosing = scope.enclosing := by
  obtain ⟨frames, outermost⟩ := scope
  simp only [forget, branches, enclosing]
  induction frames with
  | nil => exact ⟨rfl, rfl⟩
  | cons frame rest ih =>
      cases branch : frame.kind == FrameKind.branch with
      | true => simpa [branch] using ih
      | false => simp [branch]

theorem Honest.forget (honest : scope.Honest) (name : String) : (scope.forget name).Honest := by
  obtain ⟨branches, enclosing⟩ := scope.forget_parts name
  refine ⟨?_, enclosing ▸ honest.bodies⟩
  rw [branches, List.forall_mem_map]
  exact fun frame among => (honest.branches frame among).forget name

/-- What is forgotten is not narrowed any more. -/
theorem Honest.narrows_of_forget (honest : scope.Honest) {name other : String}
    (narrows : (scope.forget other).Narrows name) : scope.Narrows name ∧ name ≠ other := by
  obtain ⟨frame, among, bound⟩ := narrows
  rw [(scope.forget_parts other).1, List.mem_map] at among
  obtain ⟨before, among, rfl⟩ := among
  obtain ⟨binding, found⟩ := Option.isSome_iff_exists.mp bound
  refine ⟨⟨before, among, by simp [Frame.find?_of_forget found]⟩, ?_⟩
  rintro rfl
  rw [(honest.branches before among).find?_forget] at found
  cases found

theorem Honest.forgetAll (honest : scope.Honest) (names : List String) :
    (names.foldl Scope.forget scope).Honest ∧
      ∀ name, (names.foldl Scope.forget scope).Narrows name → scope.Narrows name := by
  induction names generalizing scope with
  | nil => exact ⟨honest, fun _ => id⟩
  | cons other rest ih =>
      obtain ⟨after, kept⟩ := ih (honest.forget other)
      exact ⟨after, fun name narrows => (honest.narrows_of_forget (kept name narrows)).1⟩

/-! ## Branches -/

theorem Inside.branch_parts {outer : Scope} (inside : Inside .branch outer scope) :
    (∃ frame, scope.branches = frame :: outer.branches) ∧ scope.enclosing = outer.enclosing := by
  obtain ⟨⟨frame, branch, inner⟩, -⟩ := inside
  have same : (frame.kind == FrameKind.branch) = true := by simp [branch]
  exact ⟨⟨frame, by simp [branches, inner, same]⟩, by simp [enclosing, inner, same]⟩

/-- What is narrowed around a branch is narrowed in it. -/
theorem Inside.narrows {outer : Scope} (inside : Inside .branch outer scope) {name : String}
    (narrows : outer.Narrows name) : scope.Narrows name := by
  obtain ⟨⟨frame, branches⟩, -⟩ := inside.branch_parts
  obtain ⟨other, among, bound⟩ := narrows
  exact ⟨other, branches ▸ List.mem_cons_of_mem _ among, bound⟩

theorem branches_assumeAbsent (scope : Scope) (name : String) :
    ∃ frame : Frame, (scope.assumeAbsent name).branches = frame :: scope.branches ∧
      ∀ other, frame.find? other =
        if other == name then some { name, type := .none, kind := .narrowed } else none := by
  refine ⟨_, rfl, fun other => ?_⟩
  rw [Frame.find?_define]
  rfl

theorem Honest.assumeAbsent (honest : scope.Honest) (name : String) :
    (scope.assumeAbsent name).Honest := by
  obtain ⟨frame, branches, bound⟩ := scope.branches_assumeAbsent name
  refine ⟨?_, ?_⟩
  · rw [branches, List.forall_mem_cons]
    refine ⟨fun other binding found => ?_, honest.branches⟩
    rw [bound] at found
    split at found
    · cases found
      rfl
    · cases found
  · exact honest.bodies

theorem narrows_of_assumeAbsent {name other : String}
    (narrows : (scope.assumeAbsent other).Narrows name) : name = other ∨ scope.Narrows name := by
  obtain ⟨branch, branches, bound⟩ := scope.branches_assumeAbsent other
  obtain ⟨frame, among, found⟩ := narrows
  rw [branches, List.mem_cons] at among
  rcases among with rfl | older
  · rw [bound] at found
    split at found
    · next same => exact .inl (beq_iff_eq.mp same)
    · cases found
  · exact .inr ⟨frame, older, found⟩

/-! ## Bodies -/

theorem Unbranched.branches_eq (unbranched : scope.Unbranched) : scope.branches = [] := by
  unfold branches
  cases shape : scope.inner with
  | nil => rfl
  | cons frame rest =>
      have noBranch := unbranched.inner frame (by simp [shape])
      simp [noBranch]

theorem Unbranched.honest (unbranched : scope.Unbranched) : scope.Honest := by
  have whole := scope.branches_append_enclosing
  rw [unbranched.branches_eq, List.nil_append] at whole
  refine ⟨by simp [unbranched.branches_eq], ?_⟩
  rw [whole]
  exact unbranched.proper

theorem Unbranched.not_narrows (unbranched : scope.Unbranched) (name : String) :
    ¬ scope.Narrows name := by
  rintro ⟨frame, among, -⟩
  rw [unbranched.branches_eq] at among
  cases among

theorem Unbranched.define (unbranched : scope.Unbranched) {binding : Binding}
    (new : binding.type ≠ .none) : (scope.define binding).Unbranched := by
  obtain ⟨frames, outermost⟩ := scope
  cases frames with
  | nil =>
      refine ⟨unbranched.inner, fun frame among => ?_⟩
      obtain rfl := List.mem_singleton.mp among
      exact (unbranched.proper outermost (by simp [Scope.frames])).define new
  | cons frame rest =>
      refine ⟨List.forall_mem_cons.mpr ⟨?_, ?_⟩, List.forall_mem_cons.mpr ⟨?_, ?_⟩⟩
      · exact unbranched.inner frame (by simp)
      · exact fun other among => unbranched.inner other (List.mem_cons_of_mem _ among)
      · exact (unbranched.proper frame (by simp [Scope.frames])).define new
      · exact fun other among => unbranched.proper other (List.mem_cons_of_mem _ among)

theorem Unbranched.enter (unbranched : scope.Unbranched) {kind : FrameKind}
    (noBranch : kind ≠ .branch) (name : String) : (scope.enter kind name).Unbranched := by
  refine ⟨List.forall_mem_cons.mpr ⟨noBranch, unbranched.inner⟩,
    List.forall_mem_cons.mpr ⟨fun other binding found => ?_, unbranched.proper⟩⟩
  cases found

end Scope
end ChocoLang
