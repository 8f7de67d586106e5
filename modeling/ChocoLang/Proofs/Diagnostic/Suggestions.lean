import ChocoLang.Diagnostic.Suggestion
import ChocoLang.Proofs.Text.EditDistance
import Mathlib.Data.List.Nodup

/-!
# Suggestions and the order of candidates

Suggestions are sorted by an order in which no two candidates are tied.  So they depend on which
candidates there are, and neither on the order in which these are listed nor on how often.

Candidates whose lengths are too different are set aside before any distance is computed.  Two texts
are at least as far apart as their lengths, so no candidate within the bound is lost by this as long
as names are as long in lower case as they are written: the suggestions are the first ones in the
ranking of all candidates within the bound.
-/

namespace ChocoLang

/-- A list without its repetitions has none. -/
theorem nodup_eraseDups : (names : List String) → names.eraseDups.Nodup
  | [] => by simp
  | name :: rest => by
      rw [List.eraseDups_cons, List.nodup_cons]
      exact ⟨by simp [List.mem_eraseDups], nodup_eraseDups _⟩
termination_by names => names.length
decreasing_by exact Nat.lt_succ_of_le (List.length_filter_le _ _)

namespace Suggestion

namespace Scored

variable {a b c : Scored}

theorem precedes_iff :
    a.precedes b ↔
      a.distance < b.distance ∨ a.distance = b.distance ∧ ¬ b.candidate < a.candidate := by
  simp [precedes]

theorem precedes_trans (first : a.precedes b) (second : b.precedes c) : a.precedes c := by
  rw [precedes_iff] at *
  rcases first with nearer | ⟨same, before⟩
  · rcases second with nearerStill | ⟨same, -⟩ <;> left <;> omega
  · rcases second with nearer | ⟨same', before'⟩
    · left
      omega
    · exact .inr ⟨same.trans same', by grind⟩

theorem precedes_total (a b : Scored) : a.precedes b || b.precedes a := by
  rw [Bool.or_eq_true, precedes_iff, precedes_iff]
  rcases Nat.lt_trichotomy a.distance b.distance with nearer | same | farther
  · exact .inl (.inl nearer)
  · have either : ¬ b.candidate < a.candidate ∨ ¬ a.candidate < b.candidate := by grind
    exact either.imp (fun before => .inr ⟨same, before⟩) fun behind => .inr ⟨same.symm, behind⟩
  · exact .inr (.inl farther)

theorem precedes_antisymm (first : a.precedes b) (second : b.precedes a) : a = b := by
  rw [precedes_iff] at *
  obtain ⟨distance, candidate⟩ := a
  obtain ⟨distance', candidate'⟩ := b
  dsimp only at first second
  obtain rfl : distance = distance' := by omega
  have before : ¬ candidate' < candidate := by simpa using first
  have behind : ¬ candidate < candidate' := by simpa using second
  obtain rfl : candidate = candidate' := by grind
  rfl

end Scored

theorem pairwise_mergeSort (scored : List Scored) :
    (scored.mergeSort Scored.precedes).Pairwise fun a b => a.precedes b :=
  @List.pairwise_mergeSort _ Scored.precedes (fun _ _ _ => Scored.precedes_trans)
    Scored.precedes_total scored

/-- Lists of the same elements are sorted into the same list. -/
theorem mergeSort_congr {scored others : List Scored} (same : scored.Perm others) :
    scored.mergeSort Scored.precedes = others.mergeSort Scored.precedes := by
  refine List.Perm.eq_of_pairwise (fun _ _ _ _ => Scored.precedes_antisymm)
    (pairwise_mergeSort _) (pairwise_mergeSort _) ?_
  exact (List.mergeSort_perm _ _).trans (same.trans (List.mergeSort_perm _ _).symm)

/-- Suggestions depend on which candidates there are, not on how these are listed. -/
theorem similar_congr {candidates others : List String}
    (same : ∀ candidate, candidate ∈ candidates ↔ candidate ∈ others) (name : String)
    (bound limit : Int) :
    similar name candidates bound limit = similar name others bound limit := by
  have distinct : candidates.eraseDups.Perm others.eraseDups :=
    (List.perm_ext_iff_of_nodup (nodup_eraseDups _) (nodup_eraseDups _)).mpr fun candidate => by
      rw [List.mem_eraseDups, List.mem_eraseDups, same]
  unfold similar
  rw [mergeSort_congr (distinct.filterMap (score? name bound))]

end Suggestion

/-! ## Lengths in lower case -/

namespace Text

/-- Among all letters only the capital `I` with a dot above takes two in lower case. -/
theorem length_lowerBetween (before : List Char) {c : Char} (after : List Char)
    (single : c.toNat ≠ 0x130) : (lowerBetween before c after).length = 1 := by
  unfold lowerBetween lowerChar
  rw [if_neg single]
  split
  · split <;> rfl
  · rfl

theorem length_lowerFrom (before : List Char) {text : List Char}
    (single : ∀ c ∈ text, c.toNat ≠ 0x130) : (lowerFrom before text).length = text.length := by
  induction text generalizing before with
  | nil => rfl
  | cons c rest ih =>
      obtain ⟨first, others⟩ := List.forall_mem_cons.mp single
      rw [lowerFrom, List.length_append, length_lowerBetween before rest first, ih _ others,
        List.length_cons, Nat.add_comm]

end Text

namespace Suggestion

/-- The name is as long in lower case as it is written. -/
def KeepsLength (name : String) : Prop := (Text.lower name.toList).length = name.length

/-- In particular a name of seven-bit characters keeps its length. -/
theorem keepsLength_of_ne {name : String} (single : ∀ c ∈ name.toList, c.toNat ≠ 0x130) :
    KeepsLength name := by
  rw [KeepsLength, Text.lower, Text.length_lowerFrom [] single, String.length_toList]

/-- Two names are at least as many edits apart as their lengths differ. -/
theorem lengthGap_le_distance {name candidate : String} (kept : KeepsLength name)
    (keptOther : KeepsLength candidate) : lengthGap name candidate ≤ distance name candidate := by
  have edits : Text.Edits (distance name candidate) (Text.lower name.toList)
      (Text.lower candidate.toList) := by
    rw [distance, Text.editDistance_eq_lastCell]
    exact (Text.lastCell_isLeast _ _).1
  have shorter := edits.length_le
  have longer := edits.symm.length_le
  rw [KeepsLength] at kept keptOther
  unfold lengthGap
  omega

/-! ## The ranking of the candidates -/

/-- The one candidate is nearer to the name than the other, or as near and alphabetically first. -/
def Nearer (name one other : String) : Prop :=
  distance name one < distance name other ∨ distance name one = distance name other ∧ one < other

/-- The candidates within the bound with their distances, in the order of their ranks. -/
def ranking (name : String) (candidates : List String) (bound : Int) : List Scored :=
  (candidates.eraseDups.filterMap (score? name bound)).mergeSort Scored.precedes

section Ranking

variable {name : String} {candidates : List String} {bound : Nat}

theorem score?_eq_some_iff {candidate : String} {scored : Scored} :
    score? name bound candidate = some scored ↔
      (candidate ≠ name ∧ lengthGap name candidate ≤ bound ∧ distance name candidate ≤ bound) ∧
        scored = ⟨distance name candidate, candidate⟩ := by
  unfold score?
  simp only [Bool.or_eq_true, decide_eq_true_eq]
  split <;> grind

theorem mem_ranking {scored : Scored} :
    scored ∈ ranking name candidates bound ↔
      ∃ candidate ∈ candidates, score? name bound candidate = some scored := by
  simp [ranking, List.mem_mergeSort, List.mem_filterMap, List.mem_eraseDups]

/-- The length of a candidate within the bound is not too different. -/
theorem mem_map_ranking (kept : KeepsLength name)
    (keptAll : ∀ candidate ∈ candidates, KeepsLength candidate) (candidate : String) :
    candidate ∈ (ranking name candidates bound).map Scored.candidate ↔
      candidate ∈ candidates ∧ candidate ≠ name ∧ distance name candidate ≤ bound := by
  simp only [List.mem_map, mem_ranking, score?_eq_some_iff]
  constructor
  · rintro ⟨_, ⟨one, among, ⟨other, -, near⟩, rfl⟩, rfl⟩
    exact ⟨among, other, near⟩
  · rintro ⟨among, other, near⟩
    have close := (lengthGap_le_distance kept (keptAll candidate among)).trans near
    exact ⟨_, ⟨candidate, among, ⟨other, close, near⟩, rfl⟩, rfl⟩

theorem map_filterMap_score? (names : List String) :
    (names.filterMap (score? name bound)).map Scored.candidate =
      names.filter fun candidate => (score? name bound candidate).isSome := by
  induction names with
  | nil => rfl
  | cons candidate rest ih =>
      cases found : score? name bound candidate with
      | none => simp [found, ih]
      | some scored =>
          obtain ⟨-, rfl⟩ := score?_eq_some_iff.mp found
          simp [found, ih]

theorem nodup_map_ranking : ((ranking name candidates bound).map Scored.candidate).Nodup := by
  have sorted := (List.mergeSort_perm (candidates.eraseDups.filterMap (score? name bound))
    Scored.precedes).map Scored.candidate
  rw [ranking, sorted.nodup_iff, map_filterMap_score?]
  exact (nodup_eraseDups candidates).filter _

/-- Each candidate in the ranking is nearer than those behind it. -/
theorem pairwise_map_ranking :
    ((ranking name candidates bound).map Scored.candidate).Pairwise (Nearer name) := by
  have sorted : (ranking name candidates bound).Pairwise fun a b => a.precedes b :=
    pairwise_mergeSort _
  have distinct : (ranking name candidates bound).Pairwise fun a b => a.candidate ≠ b.candidate :=
    List.pairwise_map.mp nodup_map_ranking
  refine List.pairwise_map.mpr ((sorted.and distinct).imp_of_mem ?_)
  intro a b one other ⟨ordered, different⟩
  obtain ⟨candidate, -, found⟩ := mem_ranking.mp one
  obtain ⟨candidate', -, found'⟩ := mem_ranking.mp other
  obtain ⟨-, rfl⟩ := score?_eq_some_iff.mp found
  obtain ⟨-, rfl⟩ := score?_eq_some_iff.mp found'
  rcases Scored.precedes_iff.mp ordered with nearer | ⟨same, notBehind⟩
  · exact .inl nearer
  · exact .inr ⟨same, by grind⟩

end Ranking

theorem takeInt_natCast {α : Type} (count : Nat) (items : List α) :
    takeInt count items = items.take count := by
  simp [takeInt]

/--
The suggestions are the first candidates of a ranking.  The ranking lists those candidates other
than the name that are within the bound, each of them once and nearer ones first; the comparison of
lengths sets none of them aside.  The order in which the candidates are given and their repetitions
do not matter.
-/
theorem similar_eq_take_ranking (name : String) (candidates : List String) (bound limit : Nat)
    (kept : KeepsLength name) (keptAll : ∀ candidate ∈ candidates, KeepsLength candidate) :
    (∃ ranked : List String, ranked.Nodup ∧ ranked.Pairwise (Nearer name) ∧
      (∀ candidate, candidate ∈ ranked ↔
        candidate ∈ candidates ∧ candidate ≠ name ∧ distance name candidate ≤ bound) ∧
      similar name candidates bound limit = ranked.take limit) ∧
    (∀ candidate ∈ candidates, lengthGap name candidate ≤ distance name candidate) ∧
    ∀ others : List String, (∀ candidate, candidate ∈ others ↔ candidate ∈ candidates) →
      similar name others bound limit = similar name candidates bound limit := by
  refine ⟨⟨(ranking name candidates bound).map Scored.candidate, nodup_map_ranking,
    pairwise_map_ranking, mem_map_ranking kept keptAll, ?_⟩, ?_, ?_⟩
  · rw [similar, takeInt_natCast]
    rfl
  · exact fun candidate among => lengthGap_le_distance kept (keptAll candidate among)
  · exact fun others same => similar_congr same name bound limit

/-- Candidates with a tie, a repetition, the name itself and one that is too long among them. -/
def countNames : List String :=
  ["mount", "counter", "Count", "Mount", "discounts", "count", "mount"]

/-- Three names are suggested for a misspelt one, those in a tie in alphabetical order. -/
theorem similar_countNames :
    KeepsLength "Count" ∧ (∀ candidate ∈ countNames, KeepsLength candidate) ∧
      ∃ ranked : List String, ranked.Nodup ∧ ranked.Pairwise (Nearer "Count") ∧
        (∀ candidate, candidate ∈ ranked ↔
          candidate ∈ countNames ∧ candidate ≠ "Count" ∧ distance "Count" candidate ≤ 2) ∧
        similar "Count" countNames 2 3 = ranked.take 3 ∧
        ranked.take 3 = ["count", "Mount", "mount"] := by
  have kept : KeepsLength "Count" := keepsLength_of_ne (by simp)
  have keptAll : ∀ candidate ∈ countNames, KeepsLength candidate := by
    have single : ∀ candidate ∈ countNames, ∀ c ∈ candidate.toList, c.toNat ≠ 0x130 := by
      simp [countNames]
    exact fun candidate among => keepsLength_of_ne (single candidate among)
  obtain ⟨⟨ranked, distinct, ordered, members, first⟩, -, -⟩ :=
    similar_eq_take_ranking "Count" countNames 2 3 kept keptAll
  refine ⟨kept, keptAll, ranked, distinct, ordered, members, first, ?_⟩
  have scores : countNames.eraseDups.filterMap (score? "Count" (2 : Nat)) =
      [⟨1, "mount"⟩, ⟨2, "counter"⟩, ⟨1, "Mount"⟩, ⟨0, "count"⟩] := by decide +kernel
  have sorted : ([⟨1, "mount"⟩, ⟨2, "counter"⟩, ⟨1, "Mount"⟩, ⟨0, "count"⟩] : List Scored).Perm
      [⟨0, "count"⟩, ⟨1, "Mount"⟩, ⟨1, "mount"⟩, ⟨2, "counter"⟩] := by decide
  have pairs : ([⟨0, "count"⟩, ⟨1, "Mount"⟩, ⟨1, "mount"⟩, ⟨2, "counter"⟩] : List Scored).Pairwise
      fun a b => a.precedes b := by decide
  rw [← first, similar, scores, mergeSort_congr sorted,
    List.mergeSort_of_pairwise pairs]
  decide

end Suggestion
end ChocoLang
