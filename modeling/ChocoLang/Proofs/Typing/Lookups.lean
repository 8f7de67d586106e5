import ChocoLang.Proofs.Typing.Narrowing

/-!
# Reading a scope after forgetting

Forgetting a variable takes its narrowings from the branches around the place and leaves the rest of
the scope as it is.  So the variable reads as if it had not been narrowed there, and every other name
reads as before, whichever way it is looked up.  The names that are offered as visible are those
that can be read, in every scope.
-/

namespace ChocoLang

/-! ## Forgetting -/

theorem Frame.find?_forget (frame : Frame) (name one : String) :
    (frame.forget name).find? one =
      if one = name then (frame.find? one).filter (·.kind ≠ .narrowed) else frame.find? one := by
  unfold Frame.forget
  by_cases same : one = name
  · subst same
    cases found : frame.find? one with
    | none => simp [found]
    | some binding =>
        by_cases narrowed : binding.kind = .narrowed
        · simp [narrowed, Frame.find?, Option.filter_some]
        · simp [narrowed, found, Option.filter_some]
  · rw [if_neg same]
    split
    · split
      · simp [Frame.find?, same]
      · rfl
    · rfl

namespace Scope

variable {scope bare : Scope} {name other : String}

theorem readable?_forget_of_ne (differ : other ≠ name) (frame : Frame) :
    readable? other (frame.forget name) = readable? other frame := by
  unfold readable?
  rw [frame.kind_forget, frame.find?_forget, if_neg differ]

/-- A name is read from the branches around the place or else from the frames around them. -/
theorem lookup_eq_or (scope : Scope) (name : String) :
    scope.lookup name = (scope.branches.findSome? (readable? name)).or
      ((scope.enclosing ++ [scope.outermost]).findSome? (readable? name)) := by
  rw [lookup, frames, ← scope.branches_append_enclosing, List.append_assoc, List.findSome?_append]

theorem lookup_forget (scope : Scope) (name other : String) :
    (scope.forget name).lookup other =
      (scope.branches.findSome? fun frame => readable? other (frame.forget name)).or
        ((scope.enclosing ++ [scope.outermost]).findSome? (readable? other)) := by
  obtain ⟨branches, enclosing⟩ := scope.forget_parts name
  rw [lookup_eq_or, branches, enclosing, List.findSome?_map]
  rfl

/-- Forgetting a variable leaves every other name as it reads. -/
theorem lookup_forget_of_ne (scope : Scope) (differ : other ≠ name) :
    (scope.forget name).lookup other = scope.lookup other := by
  rw [lookup_forget, funext (readable?_forget_of_ne differ), lookup_eq_or]

/-- The frame of the function or program around the place is as it was. -/
@[simp]
theorem body_forget (scope : Scope) (name : String) : (scope.forget name).body = scope.body := by
  rw [body, (scope.forget_parts name).2]
  rfl

@[simp]
theorem lookupLocal_forget (scope : Scope) (name other : String) :
    (scope.forget name).lookupLocal other = scope.lookupLocal other := by
  rw [lookupLocal, body_forget, lookupLocal]

@[simp]
theorem lookupGlobal_forget (scope : Scope) (name other : String) :
    (scope.forget name).lookupGlobal other = scope.lookupGlobal other := rfl

@[simp]
theorem lookupNonlocal_forget (scope : Scope) (name other : String) :
    (scope.forget name).lookupNonlocal other = scope.lookupNonlocal other := by
  rw [lookupNonlocal, (scope.forget_parts name).2, lookupNonlocal]

/-! ## Single frames -/

/-- The binding of a name in a single frame, the innermost one being the first. -/
def boundAt? (scope : Scope) (depth : Nat) (name : String) : Option Binding :=
  scope.frames[depth]?.bind (·.find? name)

theorem length_branches_forget (scope : Scope) (name : String) :
    (scope.forget name).branches.length = scope.branches.length := by
  rw [(scope.forget_parts name).1, List.length_map]

/-- The branches are the innermost frames, and forgetting reaches just these. -/
theorem getElem?_frames_forget (scope : Scope) (name : String) (depth : Nat) :
    (scope.forget name).frames[depth]? =
      if depth < scope.branches.length then scope.frames[depth]?.map (·.forget name)
      else scope.frames[depth]? := by
  have before : scope.frames = scope.branches ++ (scope.enclosing ++ [scope.outermost]) := by
    rw [frames, ← scope.branches_append_enclosing, List.append_assoc]
  have after : (scope.forget name).frames =
      scope.branches.map (·.forget name) ++ (scope.enclosing ++ [scope.outermost]) :=
    List.append_assoc ..
  simp only [before, after, List.getElem?_append, List.length_map]
  split
  · rw [List.getElem?_map]
  · rfl

theorem boundAt?_forget (scope : Scope) (name : String) (depth : Nat) (one : String) :
    (scope.forget name).boundAt? depth one =
      if depth < scope.branches.length ∧ one = name then
        (scope.boundAt? depth one).filter (·.kind ≠ .narrowed)
      else scope.boundAt? depth one := by
  rw [boundAt?, getElem?_frames_forget, boundAt?]
  by_cases inBranch : depth < scope.branches.length
  · cases scope.frames[depth]? with
    | none => simp
    | some frame => simp [inBranch, frame.find?_forget]
  · simp [inBranch]

/-- Of all bindings, forgetting drops the narrowings of the names in the branches. -/
theorem boundAt?_forgetAll (scope : Scope) (names : List String) (depth : Nat) (one : String)
    (binding : Binding) :
    (names.foldl forget scope).boundAt? depth one = some binding ↔
      scope.boundAt? depth one = some binding ∧
        ¬ (binding.kind = .narrowed ∧ depth < scope.branches.length ∧ one ∈ names) := by
  induction names generalizing scope with
  | nil => simp
  | cons name rest ih =>
      rw [List.foldl_cons, ih, boundAt?_forget, length_branches_forget]
      split
      · next here =>
          simp only [Option.filter_eq_some_iff, decide_eq_true_eq, List.mem_cons]
          tauto
      · next elsewhere =>
          simp only [List.mem_cons]
          tauto

/-- What the frames belong to, innermost first. -/
def owners (scope : Scope) : List (FrameKind × String) :=
  scope.frames.map fun frame => (frame.kind, frame.name)

theorem owners_forget (scope : Scope) (name : String) :
    (scope.forget name).owners = scope.owners := by
  have kept (frame : Frame) : (frame.forget name).name = frame.name := by
    unfold Frame.forget
    split
    · split <;> rfl
    · rfl
  refine List.ext_getElem? fun depth => ?_
  rw [owners, owners, List.getElem?_map, List.getElem?_map, getElem?_frames_forget]
  split
  · simp [Function.comp_def, kept]
  · rfl

/-- What forgetting one name leaves as it is, forgetting several names does. -/
theorem forgetAll_congr {α : Type} (look : Scope → α)
    (kept : ∀ scope name, look (forget scope name) = look scope) (scope : Scope)
    (names : List String) : look (names.foldl forget scope) = look scope := by
  induction names generalizing scope with
  | nil => rfl
  | cons name rest ih => exact (ih (scope.forget name)).trans (kept scope name)

end Scope

/-! ## Scopes without narrowings -/

/-- The second frame is the first one, but it does not narrow the variable. -/
structure Frame.Unnarrowed (name : String) (frame other : Frame) : Prop where
  /-- The frames belong to the same. -/
  kind : other.kind = frame.kind
  /-- Only a narrowing of the variable is missing. -/
  find? : ∀ one, other.find? one =
    if one = name then (frame.find? one).filter (·.kind ≠ .narrowed) else frame.find? one

namespace Frame

variable {frame : Frame} {name : String}

theorem unnarrowed_of_find?_eq_none (free : frame.find? name = none) :
    frame.Unnarrowed name frame := by
  refine ⟨rfl, fun one => ?_⟩
  split
  · next same =>
      rw [same, free]
      rfl
  · rfl

/-- A frame in which a variable is narrowed for the first time was without the narrowing before. -/
theorem unnarrowed_define (binding : Binding) (free : frame.find? binding.name = none)
    (narrowing : binding.kind = .narrowed) :
    (frame.define binding).Unnarrowed binding.name frame := by
  refine ⟨rfl, fun one => ?_⟩
  rw [find?_define]
  by_cases same : one = binding.name
  · simp [same, free, narrowing, Option.filter_some]
  · simp [same]

theorem Unnarrowed.readable? {other : Frame} (unnarrowed : frame.Unnarrowed name other)
    (one : String) :
    Scope.readable? one (frame.forget name) = Scope.readable? one other := by
  unfold Scope.readable?
  rw [frame.kind_forget, unnarrowed.kind, frame.find?_forget, unnarrowed.find?]

end Frame

/-- The second scope is the first one, but no branch around the place narrows the variable. -/
structure Scope.Unnarrowed (name : String) (scope bare : Scope) : Prop where
  /-- The branches bind what they bound, narrowings of the variable left out. -/
  branches : List.Forall₂ (Frame.Unnarrowed name) scope.branches bare.branches
  /-- The frames from the function around the place outward are the same. -/
  enclosing : bare.enclosing = scope.enclosing
  /-- The outermost frame is the same. -/
  outermost : bare.outermost = scope.outermost

namespace Scope

variable {scope bare : Scope} {name : String}

theorem unnarrowed_forget (scope : Scope) (name : String) :
    scope.Unnarrowed name (scope.forget name) := by
  obtain ⟨branches, enclosing⟩ := scope.forget_parts name
  refine ⟨?_, enclosing, rfl⟩
  rw [branches, List.forall₂_map_right_iff]
  exact List.forall₂_same.mpr fun frame _ => ⟨frame.kind_forget name, frame.find?_forget name⟩

/-- After forgetting a variable every name reads as without the narrowings of the variable. -/
theorem Unnarrowed.lookup_forget (unnarrowed : scope.Unnarrowed name bare) (one : String) :
    (scope.forget name).lookup one = bare.lookup one := by
  rw [Scope.lookup_forget, bare.lookup_eq_or, unnarrowed.enclosing, unnarrowed.outermost]
  congr 1
  have branches := unnarrowed.branches
  generalize scope.branches = frames at branches
  generalize bare.branches = others at branches
  induction branches with
  | nil => rfl
  | cons first _ ih => rw [List.findSome?_cons, List.findSome?_cons, first.readable? one, ih]

/-! ## Visible names -/

theorem nodup_visibleNames (scope : Scope) : scope.visibleNames.Nodup := nodup_eraseDups _

/-- The names that are visible are those that can be read. -/
theorem mem_visibleNames_iff (scope : Scope) (name : String) :
    name ∈ scope.visibleNames ↔ (scope.lookup name).isSome := by
  have readable (frame : Frame) : (readable? name frame).isSome ↔
      frame.kind ≠ .classBody ∧ name ∈ frame.bindings.names := by
    unfold readable?
    split
    · next ofClass => simp [ofClass]
    · next noClass => simp [noClass, Table.mem_names_iff, Frame.find?]
  simp only [visibleNames, List.mem_eraseDups, List.mem_flatMap, List.mem_filter, lookup,
    List.isSome_findSome?, List.any_eq_true, readable, bne_iff_ne, and_assoc]

/-! ## What is done to a scope -/

/-- What can be done to a scope. -/
inductive Operation where
  /-- A frame is opened. -/
  | enter (kind : FrameKind) (name : String)
  /-- The innermost frame is left. -/
  | leave
  /-- A name is bound. -/
  | define (binding : Binding)
  /-- A variable is narrowed. -/
  | narrow (name : String) (type : ValueType)
  /-- The narrowings of a variable are dropped. -/
  | forget (name : String)

/-- Does something to a scope. -/
def perform (scope : Scope) : Operation → Scope
  | .enter kind name => scope.enter kind name
  | .leave => scope.leave
  | .define binding => scope.define binding
  | .narrow name type => scope.narrow name type
  | .forget name => scope.forget name

/-- The scope that comes of operations, one after the other. -/
def ofOperations (operations : List Operation) : Scope := operations.foldl perform {}

/-- Every binding is found under its own name. -/
abbrev Named (scope : Scope) : Prop := scope.All fun name binding => binding.name = name

theorem Named.perform (named : scope.Named) (operation : Operation) :
    (scope.perform operation).Named := by
  cases operation with
  | enter kind name => exact named.enter kind name
  | leave => exact named.leave
  | define binding => exact named.define rfl
  | narrow name type => exact named.define rfl
  | forget name => exact named.forget name

theorem named_ofOperations (operations : List Operation) : (ofOperations operations).Named := by
  have empty : Scope.Named {} := by
    intro frame among name binding found
    obtain rfl := List.mem_singleton.mp among
    cases found
  exact List.foldlRecOn operations perform empty fun _ named operation _ => named.perform operation

/--
After any operations the visible names are listed once each, and they are those that can be read,
each bound under its own name.  When a variable is then forgotten, it reads as in a scope that has
no narrowing of it in the branches around the place and is the same otherwise; every other name is
bound to what it was, however it is looked up.
-/
theorem lookups_agree (operations : List Operation) :
    let scope := ofOperations operations
    scope.visibleNames.Nodup ∧
      (∀ name, name ∈ scope.visibleNames ↔ (scope.lookup name).isSome) ∧
      (∀ name, ∀ binding ∈ scope.lookup name, binding.name = name) ∧
      ∀ name, (∃ bare, scope.Unnarrowed name bare) ∧
        (∀ bare, scope.Unnarrowed name bare →
          (scope.forget name).lookup name = bare.lookup name) ∧
        ∀ other, other ≠ name →
          (scope.forget name).lookup other = scope.lookup other ∧
          (scope.forget name).lookupLocal other = scope.lookupLocal other ∧
          (scope.forget name).lookupGlobal other = scope.lookupGlobal other ∧
          (scope.forget name).lookupNonlocal other = scope.lookupNonlocal other := by
  intro scope
  refine ⟨scope.nodup_visibleNames, scope.mem_visibleNames_iff,
    fun name binding found => (named_ofOperations operations).lookup found, fun name => ?_⟩
  refine ⟨⟨scope.forget name, scope.unnarrowed_forget name⟩,
    fun bare unnarrowed => unnarrowed.lookup_forget name, fun other differ => ?_⟩
  exact ⟨scope.lookup_forget_of_ne differ, scope.lookupLocal_forget name other,
    scope.lookupGlobal_forget name other, scope.lookupNonlocal_forget name other⟩

/-- A method with a function in it, in which a variable is narrowed and narrowed again. -/
def nestedOperations : List Operation :=
  [.define { name := "x", type := .object, kind := .ownVariable }, .enter .classBody "C",
    .define { name := "y", type := .int, kind := .ownVariable }, .enter .function "m",
    .define { name := "self", type := .classType "C", kind := .parameter }, .enter .function "f",
    .define { name := "z", type := .object, kind := .ownVariable }, .enter .branch "narrow x",
    .narrow "x" .none, .enter .branch "narrow z", .narrow "z" .none, .enter .branch "narrow x",
    .narrow "x" .none]

/-- In the function the variable of the program is read again, and the others as they were. -/
theorem lookups_agree_nestedOperations :
    let scope := ofOperations nestedOperations
    let bare := { scope with
      inner := (scope.inner.set 0 { kind := .branch, name := "narrow x" }).set 2
        { kind := .branch, name := "narrow x" } }
    scope.visibleNames = ["x", "z", "self"] ∧ scope.Unnarrowed "x" bare ∧ "z" ≠ "x" ∧
      (scope.lookup "x").map Binding.type = some .none ∧
      (bare.lookup "x").map Binding.type = some .object ∧
      (scope.forget "x").lookup "x" = bare.lookup "x" ∧
      (scope.forget "x").lookup "z" = scope.lookup "z" ∧
      ∃ binding ∈ scope.lookup "z", binding.name = "z" := by
  intro scope bare
  let branch : Frame := { kind := .branch, name := "narrow x" }
  have narrowed : (branch.define { name := "x", type := .none, kind := .narrowed }).Unnarrowed "x"
      branch := Frame.unnarrowed_define { name := "x", type := .none, kind := .narrowed } rfl rfl
  have between : (Frame.define { kind := .branch, name := "narrow z" }
      { name := "z", type := .none, kind := .narrowed }).Unnarrowed "x" _ :=
    Frame.unnarrowed_of_find?_eq_none rfl
  have unnarrowed : scope.Unnarrowed "x" bare :=
    ⟨.cons narrowed (.cons between (.cons narrowed .nil)), rfl, rfl⟩
  obtain ⟨-, -, named, agree⟩ := lookups_agree nestedOperations
  exact ⟨by decide, unnarrowed, by decide, by decide, by decide,
    (agree "x").2.1 bare unnarrowed, ((agree "x").2.2 "z" (by decide)).1, _, rfl,
    named "z" _ rfl⟩

end Scope
end ChocoLang
