import ChocoLang.Text.EditDistance
import Mathlib.Order.Bounds.Basic
import Mathlib.Order.MinMax

/-!
# Edits and rows

An edit inserts, deletes or substitutes one character anywhere in a text.  Each cell of a row is the
number of edits that it takes between two beginnings, which is told from their last characters; and
no edit brings a text nearer to another one by more than one.  So the last cell of the last row is
the least number of edits, and the edit distance has the laws of a distance.
-/

namespace ChocoLang
namespace Text

/-! ## Edits -/

/-- One text becomes the other when a single character is inserted, deleted or substituted. -/
inductive Edit : List Char → List Char → Prop where
  /-- A character is inserted. -/
  | insert (front back : List Char) (c : Char) : Edit (front ++ back) (front ++ c :: back)
  /-- A character is deleted. -/
  | delete (front back : List Char) (c : Char) : Edit (front ++ c :: back) (front ++ back)
  /-- A character takes the place of another one. -/
  | substitute (front back : List Char) (c d : Char) :
    Edit (front ++ c :: back) (front ++ d :: back)

namespace Edit

variable {source target : List Char}

theorem symm (edit : Edit source target) : Edit target source := by
  cases edit with
  | insert front back c => exact .delete front back c
  | delete front back c => exact .insert front back c
  | substitute front back c d => exact .substitute front back d c

theorem cons (edit : Edit source target) (c : Char) : Edit (c :: source) (c :: target) := by
  cases edit with
  | insert front back d => exact .insert (c :: front) back d
  | delete front back d => exact .delete (c :: front) back d
  | substitute front back d e => exact .substitute (c :: front) back d e

theorem reverse (edit : Edit source target) : Edit source.reverse target.reverse := by
  cases edit with
  | insert front back c => simpa using Edit.insert back.reverse front.reverse c
  | delete front back c => simpa using Edit.delete back.reverse front.reverse c
  | substitute front back c d => simpa using Edit.substitute back.reverse front.reverse c d

theorem length_le (edit : Edit source target) : source.length ≤ target.length + 1 := by
  cases edit <;> simp only [List.length_append, List.length_cons] <;> omega

end Edit

/-- One text becomes the other by so many edits, one after the other. -/
inductive Edits : Nat → List Char → List Char → Prop where
  /-- Nothing is done. -/
  | none (text : List Char) : Edits 0 text text
  /-- An edit comes before the others. -/
  | first {count : Nat} {source between target : List Char} (edit : Edit source between)
    (later : Edits count between target) : Edits (count + 1) source target

namespace Edits

variable {count more : Nat} {source between target : List Char}

theorem append (edits : Edits count source between) (behind : Edits more between target) :
    Edits (count + more) source target := by
  induction edits with
  | none text => simpa using behind
  | first edit _ ih =>
      rw [Nat.add_right_comm]
      exact .first edit (ih behind)

theorem symm (edits : Edits count source target) : Edits count target source := by
  induction edits with
  | none text => exact .none text
  | first edit _ ih => exact ih.append (.first edit.symm (.none _))

theorem cons (edits : Edits count source target) (c : Char) :
    Edits count (c :: source) (c :: target) := by
  induction edits with
  | none text => exact .none (c :: text)
  | first edit _ ih => exact .first (edit.cons c) ih

theorem reverse (edits : Edits count source target) :
    Edits count source.reverse target.reverse := by
  induction edits with
  | none text => exact .none text.reverse
  | first edit _ ih => exact .first edit.reverse ih

/-- A text grows out of nothing by inserting its characters. -/
theorem ofNil : (target : List Char) → Edits target.length [] target
  | [] => .none []
  | c :: rest => .first (.insert [] [] c) ((ofNil rest).cons c)

theorem length_le (edits : Edits count source target) :
    source.length ≤ target.length + count := by
  induction edits with
  | none text => exact Nat.le_refl _
  | first edit _ ih =>
      have step := edit.length_le
      omega

theorem zero_iff : Edits 0 source target ↔ source = target := by
  constructor
  · intro edits
    cases edits
    rfl
  · rintro rfl
    exact .none source

end Edits

/-! ## Distances told from the first characters -/

/--
How many edits it takes from one text to another: the first characters are deleted, inserted or
substituted, unless they are the same.
-/
def gap : List Char → List Char → Nat
  | [], target => target.length
  | source, [] => source.length
  | c :: source, d :: target =>
    min (min (gap source (d :: target) + 1) (gap (c :: source) target + 1))
      (gap source target + if c = d then 0 else 1)
termination_by source target => source.length + target.length

theorem gap_nil (source : List Char) : gap source [] = source.length := by
  cases source <;> simp [gap]

theorem gap_cons_cons (c d : Char) (source target : List Char) :
    gap (c :: source) (d :: target) =
      min (min (gap source (d :: target) + 1) (gap (c :: source) target + 1))
        (gap source target + if c = d then 0 else 1) := by
  rw [gap]

theorem gap_cons_le (c : Char) (source target : List Char) :
    gap (c :: source) target ≤ gap source target + 1 := by
  cases target with
  | nil => simp [gap_nil]
  | cons d target =>
      rw [gap_cons_cons]
      omega

theorem gap_le_cons (d : Char) (source target : List Char) :
    gap source (d :: target) ≤ gap source target + 1 := by
  cases source with
  | nil => simp [gap]
  | cons c source =>
      rw [gap_cons_cons]
      omega

theorem gap_self (text : List Char) : gap text text = 0 := by
  induction text with
  | nil => exact gap_nil []
  | cons c rest ih => simp [gap_cons_cons, ih]

/-- There are edits, as many as are told. -/
theorem edits_gap (source target : List Char) : Edits (gap source target) source target := by
  fun_induction gap source target with
  | case1 target => exact .ofNil target
  | case2 source => exact (Edits.ofNil source).symm
  | case3 c source d target deleting inserting keeping =>
      have deletes := Edits.first (.delete [] source c) deleting
      have inserts := Edits.first (.insert [] (c :: source) d) (inserting.cons d)
      have substitutes :
          Edits (gap source target + if c = d then 0 else 1) (c :: source) (d :: target) := by
        split
        · next same => exact same ▸ keeping.cons c
        · exact .first (.substitute [] source c d) (keeping.cons d)
      simp only [List.nil_append] at deletes inserts
      rcases min_choice (min (gap source (d :: target) + 1) (gap (c :: source) target + 1))
        (gap source target + if c = d then 0 else 1) with outer | outer
      · rcases min_choice (gap source (d :: target) + 1) (gap (c :: source) target + 1) with
          inner | inner
        · rwa [outer, inner]
        · rwa [outer, inner]
      · rwa [outer]

/-! ## No fewer edits -/

/-- An insertion brings a text nearer to another one by at most one. -/
theorem gap_le_insert (c : Char) (source target : List Char) :
    gap source target ≤ gap (c :: source) target + 1 := by
  induction target with
  | nil =>
      rw [gap_nil, gap_nil, List.length_cons]
      omega
  | cons d target ih =>
      have longer := gap_le_cons d source target
      rw [gap_cons_cons]
      omega

theorem gap_le_substitute (c d : Char) (source target : List Char) :
    gap (c :: source) target ≤ gap (d :: source) target + 1 := by
  induction target with
  | nil => simp [gap_nil]
  | cons e target ih =>
      have deleted := gap_cons_le c source (e :: target)
      have inserted := gap_le_cons e (c :: source) target
      have kept : gap (c :: source) (e :: target) ≤ gap source target + 1 := by
        rw [gap_cons_cons]
        split <;> omega
      rw [gap_cons_cons d]
      omega

/-- What holds behind a character holds with the character in front. -/
theorem gap_le_cons_cons {source between : List Char}
    (near : ∀ target, gap source target ≤ gap between target + 1) (c : Char)
    (target : List Char) : gap (c :: source) target ≤ gap (c :: between) target + 1 := by
  induction target with
  | nil =>
      have shorter := near []
      simp only [gap_nil, List.length_cons] at shorter ⊢
      omega
  | cons d target ih =>
      have behind := near (d :: target)
      have both := near target
      rw [gap_cons_cons, gap_cons_cons]
      omega

/-- An edit brings a text nearer to another one by at most one. -/
theorem Edit.gap_le {source between : List Char} (edit : Edit source between)
    (target : List Char) : gap source target ≤ gap between target + 1 := by
  have behind {back back' : List Char} (near : ∀ target, gap back target ≤ gap back' target + 1)
      (front : List Char) :
      ∀ target, gap (front ++ back) target ≤ gap (front ++ back') target + 1 := by
    induction front with
    | nil => exact near
    | cons c front ih => exact gap_le_cons_cons ih c
  cases edit with
  | insert front back c => exact behind (gap_le_insert c back) front target
  | delete front back c => exact behind (gap_cons_le c back) front target
  | substitute front back c d => exact behind (gap_le_substitute c d back) front target

/-- There are no fewer edits than are told. -/
theorem Edits.gap_le {count : Nat} {source target : List Char}
    (edits : Edits count source target) : gap source target ≤ count := by
  induction edits with
  | none text => rw [gap_self]
  | first edit _ ih => exact (edit.gap_le _).trans (Nat.add_le_add_right ih 1)

/-! ## Rows -/

/--
The row of a beginning of the source, from a beginning of the target on; both are given from their
last characters backwards.
-/
def row (source passed : List Char) : List Char → List Nat
  | [] => [gap source passed]
  | d :: target => gap source passed :: row source (d :: passed) target

theorem row_eq_cons (source passed target : List Char) :
    row source passed target = gap source passed :: (row source passed target).tail := by
  cases target <;> rfl

theorem row_nil (passed target : List Char) :
    row [] passed target = List.range' passed.length (target.length + 1) := by
  induction target generalizing passed with
  | nil => simp [row, gap]
  | cons d target ih =>
      rw [row, ih, gap, List.length_cons, List.length_cons]
      exact List.range'_succ.symm

theorem extendRow_row (c : Char) (source passed target : List Char) :
    extendRow c (gap source passed) (gap (c :: source) passed) target
      (row source passed target).tail = (row (c :: source) passed target).tail := by
  induction target generalizing passed with
  | nil => rfl
  | cons d target ih =>
      change extendRow c _ _ (d :: target) (row source (d :: passed) target) =
        row (c :: source) (d :: passed) target
      rw [row_eq_cons source, row_eq_cons (c :: source), extendRow, ← ih, ← gap_cons_cons]

/-- A character of the source takes its row to the next one. -/
theorem nextRow_row (c : Char) (source target : List Char) :
    nextRow target (row source [] target) c = row (c :: source) [] target := by
  have first : gap source [] + 1 = gap (c :: source) [] := by simp [gap_nil]
  rw [row_eq_cons source, row_eq_cons (c :: source), nextRow, first, extendRow_row]

theorem foldl_nextRow (source passed target : List Char) :
    source.foldl (nextRow target) (row passed [] target) =
      row (source.reverse ++ passed) [] target := by
  induction source generalizing passed with
  | nil => rfl
  | cons c source ih => rw [List.foldl_cons, nextRow_row, ih]; simp

theorem getLastD_row (source passed target : List Char) :
    (row source passed target).getLastD 0 = gap source (target.reverse ++ passed) := by
  induction target generalizing passed with
  | nil => rfl
  | cons d target ih =>
      have last := ih (d :: passed)
      rw [row_eq_cons, List.getLastD_cons] at last
      rw [row, row_eq_cons, List.getLastD_cons, List.getLastD_cons, last, List.reverse_cons,
        List.append_assoc]
      rfl

/-- The last cell is the number of edits between the texts read backwards. -/
theorem lastCell_eq (source target : List Char) :
    lastCell source target = gap source.reverse target.reverse := by
  have start : List.range (target.length + 1) = row [] [] target := by
    rw [row_nil, List.range_eq_range']
    rfl
  rw [lastCell, start, foldl_nextRow, getLastD_row, List.append_nil, List.append_nil]

theorem lastCell_isLeast (source target : List Char) :
    IsLeast {count | Edits count source target} (lastCell source target) := by
  rw [lastCell_eq]
  refine ⟨?_, fun count edits => edits.reverse.gap_le⟩
  simpa using (edits_gap source.reverse target.reverse).reverse

theorem lastCell_comm (source target : List Char) :
    lastCell source target = lastCell target source := by
  refine (lastCell_isLeast source target).unique ⟨?_, fun count edits => ?_⟩
  · exact Edits.symm (lastCell_isLeast target source).1
  · exact (lastCell_isLeast target source).2 (Edits.symm edits)

/-! ## The distance -/

/-- Exchanging the texts does not matter. -/
theorem editDistance_eq_lastCell (source target : List Char) :
    editDistance source target = lastCell source target := by
  unfold editDistance
  split
  · exact lastCell_comm target source
  · rfl

/--
The edit distance is the least number of edits from one text to the other.  So it is zero for equal
texts alone, the same in both directions, at most as long as any way round, and at least the
difference of the lengths.
-/
theorem editDistance_isLeast (source target : List Char) :
    IsLeast {count | Edits count source target} (editDistance source target) ∧
      (editDistance source target = 0 ↔ source = target) ∧
      editDistance source target = editDistance target source ∧
      (∀ between, editDistance source target ≤
        editDistance source between + editDistance between target) ∧
      source.length ≤ target.length + editDistance source target ∧
      target.length ≤ source.length + editDistance source target := by
  simp only [editDistance_eq_lastCell]
  have least := lastCell_isLeast source target
  have edits : Edits (lastCell source target) source target := least.1
  refine ⟨least, ⟨fun zero => ?_, fun same => ?_⟩, lastCell_comm source target,
    fun between => ?_, edits.length_le, edits.symm.length_le⟩
  · exact Edits.zero_iff.mp (zero ▸ edits)
  · exact Nat.le_zero.mp (least.2 (Edits.zero_iff.mpr same))
  · have first : Edits _ source between := (lastCell_isLeast source between).1
    exact least.2 (first.append (lastCell_isLeast between target).1)

end Text
end ChocoLang
