import ChocoLang.Proofs.Typing.ClassTable

/-!
# Chains of superclasses

The superclasses of a class are found by a loop.  It keeps the names met so far, in their order, and
one name at hand; it ends when there is none or the name has been met before.  Classes may have been
added twice, below classes that are not listed, or in a circle: the loop ends all the same, and what
it has met then are the names that superclasses lead to, each of them once.
-/

namespace ChocoLang
namespace ClassHierarchy

variable {hierarchy : ClassHierarchy} {met seen chain : List String} {current : Option String}
  {name next other : String}

/-- The loop that has met some names, with another one at hand, ends having met a chain of names. -/
inductive Climbs (hierarchy : ClassHierarchy) : List String → Option String → List String → Prop
  /-- There is no name at hand. -/
  | top {met : List String} : Climbs hierarchy met none met
  /-- The name at hand has been met before. -/
  | again {met : List String} {name : String} (before : name ∈ met) :
      Climbs hierarchy met (some name) met
  /-- The name at hand is met, and the superclass is taken up. -/
  | on {met chain : List String} {name : String} (new : name ∉ met)
      (climbs : Climbs hierarchy (met ++ [name]) (hierarchy.superclassOf? name) chain) :
      Climbs hierarchy met (some name) chain

/-! ## The loop ends -/

/-- How many names the loop can still go on from: the listed ones that it has not met, and one that
is not listed as long as `object` has not come up. -/
def unmet (hierarchy : ClassHierarchy) (seen : List String) (name : String) : Nat :=
  (hierarchy.names.filter (· ∉ seen)).length + if "object" ∈ name :: seen then 0 else 1

theorem unmet_lt (above : hierarchy.Extends name next) (new : name ∉ seen)
    (unseen : next ∉ name :: seen) :
    hierarchy.unmet (name :: seen) next < hierarchy.unmet seen name := by
  have rest : hierarchy.names.filter (· ∉ name :: seen) =
      (hierarchy.names.filter (· ∉ seen)).filter (· ≠ name) := by
    simp [List.filter_filter]
  have fewer := List.length_filter_le (decide <| · ≠ name) (hierarchy.names.filter (· ∉ seen))
  rw [unmet, unmet, rest]
  by_cases listed : name ∈ hierarchy.names
  · have among : name ∈ hierarchy.names.filter (· ∉ seen) := by simp [listed, new]
    have strictly : ((hierarchy.names.filter (· ∉ seen)).filter (· ≠ name)).length <
        (hierarchy.names.filter (· ∉ seen)).length :=
      List.length_filter_lt_length_iff_exists.mpr ⟨name, among, by simp⟩
    by_cases met : "object" ∈ name :: seen
    · simp only [met, List.mem_cons_of_mem next met, if_true]
      omega
    · simp only [met, if_false]
      split <;> omega
  · -- A name that is not listed is followed by `object`, which has not come up yet.
    have unlisted : hierarchy.find? name = none := by
      simpa [← find?_isSome_iff_mem_names] using listed
    simp only [Extends, superclassOf?, unlisted] at above
    split at above
    · cases above
    · cases above
      simp only [unseen, List.mem_cons_self, if_true, if_false]
      omega

/-- A chain that is long enough to hold what is unmet is the one with which the loop ends. -/
theorem climbs_chain {bound : Nat} (new : name ∉ seen) (enough : hierarchy.unmet seen name < bound) :
    hierarchy.Climbs seen.reverse (some name)
      (seen.reverse ++ hierarchy.chain bound seen name) := by
  induction bound generalizing seen name with
  | zero => exact absurd enough (Nat.not_lt_zero _)
  | succ bound ih =>
      refine .on (by simpa using new) ?_
      rw [← List.reverse_cons]
      cases above : hierarchy.superclassOf? name with
      | none =>
          simp only [chain, above]
          rw [← List.reverse_cons]
          exact .top
      | some next =>
          simp only [chain, above]
          split
          · next before =>
              rw [← List.reverse_cons]
              exact .again (List.mem_reverse.mpr (List.contains_iff_mem.mp before))
          · next unseen =>
              have unseen : next ∉ name :: seen := by simpa using unseen
              have fewer := unmet_lt above new unseen
              have later := ih unseen (by omega)
              rw [List.reverse_cons] at later ⊢
              rwa [List.append_assoc, List.singleton_append] at later

theorem climbs_ancestors (hierarchy : ClassHierarchy) (name : String) :
    hierarchy.Climbs [] (some name) (hierarchy.ancestors name) := by
  rw [ancestors, ← List.nil_append (hierarchy.chain _ [] name), ← List.reverse_nil]
  refine climbs_chain List.not_mem_nil ?_
  have all := List.length_filter_le (decide <| · ∉ ([] : List String)) hierarchy.names
  have count : hierarchy.names.length = hierarchy.classes.entries.length := by
    simp [names, Table.names]
  unfold unmet
  split <;> omega

theorem Climbs.unique (climbs : hierarchy.Climbs met current chain) {others : List String}
    (climbs' : hierarchy.Climbs met current others) : chain = others := by
  induction climbs with
  | top =>
      cases climbs'
      rfl
  | again before =>
      cases climbs' with
      | again => rfl
      | on new => exact absurd before new
  | on new _ ih =>
      cases climbs' with
      | again before => exact absurd before new
      | on _ climbs' => exact ih climbs'

/-- The loop ends, and it ends with the class and its superclasses. -/
theorem climbs_iff (hierarchy : ClassHierarchy) (name : String) (chain : List String) :
    hierarchy.Climbs [] (some name) chain ↔ chain = hierarchy.ancestors name := by
  constructor
  · exact fun climbs => climbs.unique (hierarchy.climbs_ancestors name)
  · rintro rfl
    exact hierarchy.climbs_ancestors name

/-! ## What it has met -/

/-- What has been met stays at the front. -/
theorem Climbs.isPrefix (climbs : hierarchy.Climbs met current chain) : met <+: chain := by
  induction climbs with
  | top | again => exact List.prefix_rfl
  | on _ _ ih => exact (List.prefix_append _ _).trans ih

theorem Climbs.nodup (climbs : hierarchy.Climbs met current chain) (distinct : met.Nodup) :
    chain.Nodup := by
  induction climbs with
  | top | again => exact distinct
  | on new _ ih =>
      refine ih (List.nodup_append.mpr ⟨distinct, by simp, ?_⟩)
      rintro earlier among last ends rfl
      exact new (List.mem_singleton.mp ends ▸ among)

/-- The superclass of what has been met is met, too, if it is not the name at hand. -/
theorem Climbs.closed (climbs : hierarchy.Climbs met current chain)
    (before : ∀ name ∈ met, ∀ next, hierarchy.Extends name next →
      next ∈ met ∨ current = some next) :
    ∀ name ∈ chain, ∀ next, hierarchy.Extends name next → next ∈ chain := by
  induction climbs with
  | top => exact fun name among next above => (before name among next above).resolve_right nofun
  | again known =>
      intro name among next above
      rcases before name among next above with within | same
      · exact within
      · exact Option.some.inj same ▸ known
  | @on met chain name new climbs ih =>
      refine ih fun lower among next above => ?_
      rcases List.mem_append.mp among with earlier | last
      · rcases before lower earlier next above with within | same
        · exact .inl (List.mem_append_left _ within)
        · exact .inl (Option.some.inj same ▸ List.mem_append_right _ List.mem_cons_self)
      · exact .inr (List.mem_singleton.mp last ▸ above)

theorem head?_ancestors (hierarchy : ClassHierarchy) (name : String) :
    (hierarchy.ancestors name).head? = some name := by
  have climbs := hierarchy.climbs_ancestors name
  generalize hierarchy.ancestors name = chain at climbs ⊢
  cases climbs with
  | again before => cases before
  | on _ climbs =>
      obtain ⟨rest, rfl⟩ := climbs.isPrefix
      rfl

theorem nodup_ancestors (hierarchy : ClassHierarchy) (name : String) :
    (hierarchy.ancestors name).Nodup :=
  (hierarchy.climbs_ancestors name).nodup List.nodup_nil

/-- A class and its superclasses are the names that are reached from it. -/
theorem mem_ancestors_iff_reaches (hierarchy : ClassHierarchy) (name other : String) :
    other ∈ hierarchy.ancestors name ↔ hierarchy.Reaches name other := by
  refine ⟨reaches_of_mem_chain, fun reaches => ?_⟩
  induction reaches with
  | refl => exact List.mem_of_mem_head? (hierarchy.head?_ancestors name)
  | tail _ above ih =>
      exact (hierarchy.climbs_ancestors name).closed (by simp) _ ih _ above

/-! ## Where it ends -/

/-- If no class lies below itself, the loop goes on until a class has no superclass. -/
theorem Climbs.exists_root (climbs : hierarchy.Climbs met current chain)
    (acyclic : ∀ name, ¬ Relation.TransGen hierarchy.Extends name name)
    (below : ∀ next ∈ current, ∀ name ∈ met, Relation.TransGen hierarchy.Extends name next)
    (ended : current = none → ∃ last, met.getLast? = some last ∧
      hierarchy.superclassOf? last = none) :
    ∃ last, chain.getLast? = some last ∧ hierarchy.superclassOf? last = none := by
  induction climbs with
  | top => exact ended rfl
  | again before => exact absurd (below _ rfl _ before) (acyclic _)
  | @on met chain name new climbs ih =>
      refine ih (fun next above lower among => ?_) fun root => ⟨name, by simp, root⟩
      have link : Relation.TransGen hierarchy.Extends name next := .single above
      rcases List.mem_append.mp among with earlier | last
      · exact (below name rfl lower earlier).trans link
      · exact List.mem_singleton.mp last ▸ link

/-- The hierarchy after classes have been added, one after the other, to those of every program. -/
def ofAdditions (infos : List ClassInfo) : ClassHierarchy := infos.foldl add initial

/-- What is listed has been added or was there before. -/
theorem mem_of_find?_foldl_add {infos : List ClassInfo} {info : ClassInfo}
    (found : (infos.foldl add hierarchy).find? name = some info) :
    info ∈ infos ∧ info.name = name ∨ hierarchy.find? name = some info := by
  induction infos generalizing hierarchy with
  | nil => exact .inr found
  | cons first rest ih =>
      rcases ih found with ⟨among, named⟩ | before
      · exact .inl ⟨List.mem_cons_of_mem _ among, named⟩
      · rw [find?_add] at before
        split at before
        · next same =>
            cases before
            exact .inl ⟨List.mem_cons_self, (beq_iff_eq.mp same).symm⟩
        · exact .inr before

/-- If every class that is added has a superclass, only `object` has none. -/
theorem eq_object_of_root {infos : List ClassInfo}
    (below : ∀ info ∈ infos, info.superclass = none → info.name = "object")
    (root : (ofAdditions infos).superclassOf? name = none) : name = "object" := by
  unfold superclassOf? at root
  split at root
  · next info found =>
      rcases mem_of_find?_foldl_add found with ⟨among, rfl⟩ | before
      · exact below info among root
      · exact initial_rooted.rooted before root
  · split at root
    · assumption
    · cases root

/--
Whatever classes are added, the loop ends for every name, with a chain that begins with the name and
holds each name that superclasses lead to once and no other.  If every class that is added has a
superclass and no class lies below itself, the chain ends in `object`; classes may be added twice and
below classes that are not listed as long as this closes no circle.
-/
theorem ancestors_ofAdditions (infos : List ClassInfo) (name : String) :
    let hierarchy := ofAdditions infos
    (∀ chain, hierarchy.Climbs [] (some name) chain ↔ chain = hierarchy.ancestors name) ∧
      (hierarchy.ancestors name).head? = some name ∧ (hierarchy.ancestors name).Nodup ∧
      (∀ other, other ∈ hierarchy.ancestors name ↔ hierarchy.Reaches name other) ∧
      ((∀ info ∈ infos, info.superclass = none → info.name = "object") →
        (∀ other, ¬ Relation.TransGen hierarchy.Extends other other) →
          (hierarchy.ancestors name).getLast? = some "object") := by
  intro hierarchy
  refine ⟨hierarchy.climbs_iff name, hierarchy.head?_ancestors name,
    hierarchy.nodup_ancestors name, hierarchy.mem_ancestors_iff_reaches name,
    fun below acyclic => ?_⟩
  obtain ⟨last, ends, root⟩ :=
    (hierarchy.climbs_ancestors name).exists_root acyclic (by simp) nofun
  rw [ends, eq_object_of_root below root]

/-- A circle of classes ends where it closes, and so does one that `object` is drawn into. -/
example :
    (ofAdditions [{ name := "A", superclass := some "B" },
      { name := "B", superclass := some "A" }]).ancestors "A" = ["A", "B"] ∧
    (ofAdditions [{ name := "object", superclass := some "A" },
      { name := "A", superclass := some "X" }]).ancestors "Y" = ["Y", "object", "A", "X"] := by
  decide

/-- No class lies below itself if each is listed behind its superclass. -/
theorem Grounded.acyclic (grounded : hierarchy.Grounded) (name : String) :
    ¬ Relation.TransGen hierarchy.Extends name name := by
  have earlier {lower upper : String} (above : Relation.TransGen hierarchy.Extends lower upper) :
      hierarchy.names.idxOf upper < hierarchy.names.idxOf lower := by
    induction above with
    | single link => exact grounded.idxOf_lt_of_extends link
    | tail _ link ih => exact Nat.lt_trans (grounded.idxOf_lt_of_extends link) ih
  exact fun above => Nat.lt_irrefl _ (earlier above)

/-- Two classes in a chain that is in order end in `object`. -/
theorem ancestors_ofAdditions_chained :
    let infos : List ClassInfo :=
      [{ name := "A", superclass := some "object" }, { name := "B", superclass := some "A" }]
    (∀ info ∈ infos, info.superclass = none → info.name = "object") ∧
      (∀ other, ¬ Relation.TransGen (ofAdditions infos).Extends other other) ∧
      (ofAdditions infos).ancestors "B" = ["B", "A", "object"] ∧
      ((ofAdditions infos).ancestors "B").getLast? = some "object" := by
  intro infos
  have below : ∀ info ∈ infos, info.superclass = none → info.name = "object" := by simp [infos]
  have acyclic := chained_built.ordered.toGrounded.acyclic
  exact ⟨below, acyclic, by decide, (ancestors_ofAdditions infos "B").2.2.2.2 below acyclic⟩

end ClassHierarchy
end ChocoLang
