import ChocoLang.Checking.Expression
import ChocoLang.Proofs.Diagnostic.Suggestions
import ChocoLang.Typing.Scope

/-!
# Frames on a scope

Inside a frame of its own, a phrase binds names in that frame only; when the frame is left, the
scope around it is as it was.  Only branches are seen through: what is forgotten in a branch is
forgotten in the branches around it.
-/

namespace ChocoLang

theorem Frame.find?_define (frame : Frame) (binding : Binding) (name : String) :
    (frame.define binding).find? name =
      if name == binding.name then some binding else frame.find? name :=
  Table.find?_insert _ _ _ _

/-- Forgetting a name in a frame brings up no binding. -/
theorem Frame.find?_of_forget {frame : Frame} {name other : String} {binding : Binding}
    (found : (frame.forget other).find? name = some binding) : frame.find? name = some binding := by
  unfold Frame.forget at found
  split at found
  · split at found
    · simp only [Frame.find?, Table.find?_erase] at found
      split at found
      · cases found
      · exact found
    · exact found
  · exact found

@[simp]
theorem Frame.kind_define (frame : Frame) (binding : Binding) :
    (frame.define binding).kind = frame.kind := rfl

@[simp]
theorem Frame.kind_forget (frame : Frame) (name : String) :
    (frame.forget name).kind = frame.kind := by
  unfold Frame.forget
  split
  · split <;> rfl
  · rfl

theorem Scope.current_define (scope : Scope) (binding : Binding) :
    (scope.define binding).current = scope.current.define binding := by
  obtain ⟨frames, outermost⟩ := scope
  cases frames <;> rfl

namespace Scope

/-- The scope is the outer one with a frame of the kind on top of it. -/
structure Inside (kind : FrameKind) (outer scope : Scope) : Prop where
  /-- One frame is added. -/
  inner : ∃ frame : Frame, frame.kind = kind ∧ scope.inner = frame :: outer.inner
  /-- The outermost frame is the same. -/
  outermost : scope.outermost = outer.outermost

variable {kind : FrameKind} {outer scope : Scope}

theorem inside_enter (outer : Scope) (kind : FrameKind) (name : String) :
    Inside kind outer (outer.enter kind name) :=
  ⟨⟨_, rfl, rfl⟩, rfl⟩

namespace Inside

theorem define (inside : Inside kind outer scope) (binding : Binding) :
    Inside kind outer (scope.define binding) := by
  obtain ⟨⟨frame, same, inner⟩, outermost⟩ := inside
  simp only [Scope.define, inner]
  exact ⟨⟨frame.define binding, same, rfl⟩, outermost⟩

theorem defineAll (inside : Inside kind outer scope) (bindings : List Binding) :
    Inside kind outer (bindings.foldl Scope.define scope) := by
  induction bindings generalizing scope with
  | nil => exact inside
  | cons binding rest ih => exact ih (inside.define binding)

theorem leave (inside : Inside kind outer scope) : scope.leave = outer := by
  obtain ⟨⟨frame, same, inner⟩, outermost⟩ := inside
  simp only [Scope.leave, inner, List.tail_cons]
  exact congrArg (Scope.mk outer.inner) outermost

/-- What is forgotten in a branch is forgotten around it, too. -/
theorem forget_branch (inside : Inside .branch outer scope) (name : String) :
    Inside .branch (outer.forget name) (scope.forget name) := by
  obtain ⟨⟨frame, same, inner⟩, outermost⟩ := inside
  refine ⟨⟨frame.forget name, by simp [same], ?_⟩, outermost⟩
  simp [Scope.forget, branches, enclosing, inner, same]

theorem forgetAll_branch (inside : Inside .branch outer scope) (names : List String) :
    Inside .branch (names.foldl Scope.forget outer) (names.foldl Scope.forget scope) := by
  induction names generalizing outer scope with
  | nil => exact inside
  | cons name rest ih => exact ih (inside.forget_branch name)

/-- Outside all branches nothing is forgotten. -/
theorem forget_eq (inside : Inside kind outer scope) (noBranch : kind ≠ .branch) (name : String) :
    scope.forget name = scope := by
  obtain ⟨⟨frame, same, inner⟩, outermost⟩ := inside
  obtain ⟨frames, last⟩ := scope
  subst inner
  have stops : (frame.kind == FrameKind.branch) = false := by simpa [same] using noBranch
  simp [Scope.forget, branches, enclosing, stops]

theorem forgetAll_eq (inside : Inside kind outer scope) (noBranch : kind ≠ .branch)
    (names : List String) : names.foldl Scope.forget scope = scope := by
  induction names with
  | nil => rfl
  | cons name rest ih => rw [List.foldl_cons, inside.forget_eq noBranch, ih]

end Inside

/-- The scope in a branch in which a variable is absent. -/
def assumeAbsent (scope : Scope) (name : String) : Scope :=
  (scope.enter .branch ("narrow " ++ name)).narrow name .none

theorem inside_assumeAbsent (scope : Scope) (name : String) :
    Inside .branch scope (scope.assumeAbsent name) :=
  (inside_enter scope .branch _).define _

/-! ## All bindings -/

/-- The bindings in all frames have a property, each with the name it is found under. -/
def All (property : String → Binding → Prop) (scope : Scope) : Prop :=
  ∀ frame ∈ scope.frames, ∀ name binding, frame.find? name = some binding → property name binding

namespace All

variable {property : String → Binding → Prop} {scope : Scope} {name : String} {binding : Binding}

/-- A binding that is read has the property. -/
theorem lookup (all : scope.All property) (found : scope.lookup name = some binding) :
    property name binding := by
  obtain ⟨frame, among, bound⟩ := List.exists_of_findSome?_eq_some found
  unfold readable? at bound
  split at bound
  · cases bound
  · exact all frame among name binding bound

/-- A binding in the frame of the function or program at hand has the property. -/
theorem lookupLocal (all : scope.All property) (found : scope.lookupLocal name = some binding) :
    property name binding := by
  refine all scope.body ?_ name binding found
  have inner : ∀ frame ∈ scope.enclosing, frame ∈ scope.inner := fun frame among =>
    (List.dropWhile_sublist _).subset among
  unfold Scope.body Scope.frames
  cases shape : scope.enclosing with
  | nil => simp
  | cons frame rest => exact List.mem_append_left _ (inner frame (by simp [shape]))

theorem lookupGlobal (all : scope.All property) (found : scope.lookupGlobal name = some binding) :
    property name binding :=
  all scope.outermost (by simp [Scope.frames]) name binding found

theorem lookupNonlocal (all : scope.All property)
    (found : scope.lookupNonlocal name = some binding) : property name binding := by
  obtain ⟨frame, among, bound⟩ := List.exists_of_findSome?_eq_some found
  split at bound
  · refine all frame (List.mem_append_left _ ?_) name binding bound
    exact (List.dropWhile_sublist _).subset (List.mem_of_mem_tail among)
  · cases bound

theorem define (all : scope.All property) (new : property binding.name binding) :
    (scope.define binding).All property := by
  have defined {frame : Frame} (among : frame ∈ scope.frames) (name : String) (found : Binding)
      (shape : (frame.define binding).find? name = some found) : property name found := by
    rw [Frame.find?_define] at shape
    split at shape
    · next same =>
        cases shape
        exact (beq_iff_eq.mp same) ▸ new
    · exact all frame among name found shape
  obtain ⟨frames, outermost⟩ := scope
  cases frames with
  | nil =>
      intro other among
      obtain rfl := List.mem_singleton.mp among
      exact defined (by simp [frames])
  | cons frame rest =>
      intro other among
      simp only [Scope.define, frames, List.cons_append, List.mem_cons] at among
      rcases among with rfl | older
      · exact defined (by simp [frames])
      · exact all other (List.mem_cons_of_mem frame older)

theorem defineAll (all : scope.All property) {bindings : List Binding}
    (new : ∀ binding ∈ bindings, property binding.name binding) :
    (bindings.foldl Scope.define scope).All property := by
  induction bindings generalizing scope with
  | nil => exact all
  | cons binding rest ih =>
      obtain ⟨first, others⟩ := List.forall_mem_cons.mp new
      exact ih (all.define first) others

theorem enter (all : scope.All property) (kind : FrameKind) (name : String) :
    (scope.enter kind name).All property := by
  intro frame among
  simp only [Scope.enter, frames, List.cons_append, List.mem_cons] at among
  rcases among with rfl | older
  · intro name binding found
    cases found
  · exact all frame older

theorem leave (all : scope.All property) : scope.leave.All property := by
  intro frame among
  refine all frame ?_
  simp only [Scope.leave, frames, List.mem_append] at among ⊢
  exact among.imp_left List.mem_of_mem_tail

theorem forget (all : scope.All property) (name : String) : (scope.forget name).All property := by
  intro frame among
  have old : ∀ frame ∈ scope.branches ++ scope.enclosing ++ [scope.outermost], ∀ name binding,
      frame.find? name = some binding → property name binding := by
    rw [branches_append_enclosing]
    exact all
  simp only [Scope.forget, frames, List.mem_append, List.mem_map] at among
  rcases among with (⟨branch, among, rfl⟩ | outer) | last
  · intro other binding found
    refine old branch ?_ other binding (Frame.find?_of_forget found)
    exact List.mem_append_left _ (List.mem_append_left _ among)
  · exact old frame (List.mem_append_left _ (List.mem_append_right _ outer))
  · exact old frame (List.mem_append_right _ last)

end All

end Scope
end ChocoLang

/-!
## Scopes that read alike

The frame of the program lists its bindings in the order in which they were made.  Nothing that is
read from a scope depends on that order: neither what a name is bound to nor what is suggested for
a name that is not bound.
-/

namespace ChocoLang

theorem Table.mem_names_iff {α : Type} (table : Table α) (name : String) :
    name ∈ table.names ↔ (table.find? name).isSome := by
  rw [Table.find?, List.lookup_isSome_iff, Table.names, List.mem_map]
  exact exists_congr fun entry => and_congr_right fun _ => by rw [beq_iff_eq, eq_comm]

/-- The frames belong to the same, and each name is bound to the same in both. -/
structure Frame.Alike (first second : Frame) : Prop where
  /-- The frames belong to the same. -/
  kind : first.kind = second.kind
  /-- Each name is bound to the same. -/
  find? : ∀ name, first.find? name = second.find? name

namespace Frame.Alike

variable {first second : Frame}

theorem refl (frame : Frame) : frame.Alike frame := ⟨rfl, fun _ => rfl⟩

theorem trans {third : Frame} (alike : first.Alike second) (alike' : second.Alike third) :
    first.Alike third :=
  ⟨alike.kind.trans alike'.kind, fun name => (alike.find? name).trans (alike'.find? name)⟩

theorem define (alike : first.Alike second) (binding : Binding) :
    (first.define binding).Alike (second.define binding) :=
  ⟨alike.kind, fun name => by rw [find?_define, find?_define, alike.find?]⟩

theorem readable? (alike : first.Alike second) (name : String) :
    Scope.readable? name first = Scope.readable? name second := by
  unfold Scope.readable?
  rw [alike.kind, alike.find?]

theorem mem_names_iff (alike : first.Alike second) (name : String) :
    name ∈ first.bindings.names ↔ name ∈ second.bindings.names := by
  have same : first.bindings.find? name = second.bindings.find? name := alike.find? name
  rw [Table.mem_names_iff, Table.mem_names_iff, same]

end Frame.Alike

/-- The scopes have the same frames, but for the order of bindings in the frame of the program. -/
structure Scope.Alike (first second : Scope) : Prop where
  /-- The frames inside are the same. -/
  inner : first.inner = second.inner
  /-- The outermost frames are alike. -/
  outermost : first.outermost.Alike second.outermost

namespace Scope.Alike

variable {first second : Scope}

theorem refl (scope : Scope) : scope.Alike scope := ⟨rfl, .refl _⟩

theorem trans {third : Scope} (alike : first.Alike second) (alike' : second.Alike third) :
    first.Alike third :=
  ⟨alike.inner.trans alike'.inner, alike.outermost.trans alike'.outermost⟩

/-! ## What is read -/

theorem current (alike : first.Alike second) : first.current.Alike second.current := by
  unfold Scope.current
  rw [alike.inner]
  cases second.inner with
  | nil => exact alike.outermost
  | cons frame rest => exact .refl frame

theorem enclosing (alike : first.Alike second) : first.enclosing = second.enclosing := by
  unfold Scope.enclosing
  rw [alike.inner]

theorem lookup (alike : first.Alike second) (name : String) :
    first.lookup name = second.lookup name := by
  unfold Scope.lookup frames
  simp only [List.findSome?_append, List.findSome?_cons, alike.inner,
    alike.outermost.readable? name]

theorem lookupLocal (alike : first.Alike second) (name : String) :
    first.lookupLocal name = second.lookupLocal name := by
  unfold Scope.lookupLocal body
  rw [alike.enclosing]
  cases second.enclosing with
  | nil => exact alike.outermost.find? name
  | cons frame rest => rfl

theorem lookupGlobal (alike : first.Alike second) (name : String) :
    first.lookupGlobal name = second.lookupGlobal name :=
  alike.outermost.find? name

theorem lookupNonlocal (alike : first.Alike second) (name : String) :
    first.lookupNonlocal name = second.lookupNonlocal name := by
  unfold Scope.lookupNonlocal
  rw [alike.enclosing]

theorem mem_visibleNames_iff (alike : first.Alike second) (name : String) :
    name ∈ first.visibleNames ↔ name ∈ second.visibleNames := by
  simp only [visibleNames, List.mem_eraseDups, frames, List.filter_append, List.flatMap_append,
    List.mem_append, alike.inner]
  refine or_congr_right ?_
  simp only [List.filter_cons, List.filter_nil, alike.outermost.kind]
  split
  · simpa using alike.outermost.mem_names_iff name
  · rfl

theorem undefined (alike : first.Alike second) (name : String) :
    first.undefined name = second.undefined name := by
  unfold Scope.undefined Suggestion.suggest
  rw [Suggestion.similar_congr alike.mem_visibleNames_iff]

theorem readVerdict (alike : first.Alike second) (name : String) :
    first.readVerdict name = second.readVerdict name := by
  unfold Scope.readVerdict
  rw [alike.lookup, alike.undefined]

theorem nameCallVerdict (alike : first.Alike second) (hierarchy : ClassHierarchy) (name : String)
    (args : List ValueType) :
    hierarchy.nameCallVerdict first name args = hierarchy.nameCallVerdict second name args := by
  unfold ClassHierarchy.nameCallVerdict
  rw [alike.lookup, alike.undefined]

/-! ## What is changed -/

theorem define (alike : first.Alike second) (binding : Binding) :
    (first.define binding).Alike (second.define binding) := by
  obtain ⟨inner, outermost⟩ := first
  obtain ⟨_, outermost'⟩ := second
  obtain rfl := alike.inner
  cases inner with
  | nil => exact ⟨rfl, alike.outermost.define binding⟩
  | cons frame rest => exact ⟨rfl, alike.outermost⟩

theorem enter (alike : first.Alike second) (kind : FrameKind) (name : String) :
    (first.enter kind name).Alike (second.enter kind name) :=
  ⟨congrArg (_ :: ·) alike.inner, alike.outermost⟩

theorem leave (alike : first.Alike second) : first.leave.Alike second.leave :=
  ⟨congrArg List.tail alike.inner, alike.outermost⟩

theorem forget (alike : first.Alike second) (name : String) :
    (first.forget name).Alike (second.forget name) := by
  refine ⟨?_, alike.outermost⟩
  simp only [Scope.forget, branches, alike.inner, alike.enclosing]

end Scope.Alike

/-- Whether a variable is absent when a condition holds depends on the scope and the classes. -/
theorem CheckState.absentVariable?_congr {first second : CheckState}
    (alike : first.scope.Alike second.scope) (hierarchy : first.hierarchy = second.hierarchy)
    (condition : Expr) : first.absentVariable? condition = second.absentVariable? condition := by
  unfold absentVariable?
  simp only [alike.lookup, hierarchy]

end ChocoLang
