import ChocoLang.Text.Case
import ChocoLang.Text.EditDistance

/-!
# Similar names

When a name is unknown, the names most like it are suggested.  Likeness is the edit distance of
the names in lower case; the suggestions are the names within a bound, nearest first and in
alphabetical order among equally near ones.
-/

namespace ChocoLang
namespace Suggestion

/-- A candidate with its distance from the name looked for. -/
structure Scored where
  /-- The edit distance, case aside. -/
  distance : Nat
  /-- The candidate. -/
  candidate : String
deriving DecidableEq, Repr

/-- Nearer candidates come first, equally near ones in alphabetical order. -/
def Scored.precedes (a b : Scored) : Bool :=
  a.distance < b.distance || a.distance == b.distance && !(b.candidate < a.candidate)

/-- How far apart two names are, case aside. -/
def distance (name candidate : String) : Nat :=
  Text.editDistance (Text.lower name.toList) (Text.lower candidate.toList)

/-- The difference of two lengths. -/
def lengthGap (name candidate : String) : Nat :=
  (candidate.length - name.length) + (name.length - candidate.length)

/--
The candidate with its distance, unless it is the name itself, has too different a length, or is
too far away.
-/
def score? (name : String) (bound : Int) (candidate : String) : Option Scored :=
  if candidate = name || bound < lengthGap name candidate then none
  else
    let distance := distance name candidate
    if distance ≤ bound then some ⟨distance, candidate⟩ else none

/-- The first so many elements, or all but the last ones when the number is negative. -/
def takeInt {α : Type} (count : Int) (items : List α) : List α :=
  if 0 ≤ count then items.take count.toNat else items.take (items.length - (-count).toNat)

/-- The names among the candidates that are most like the given one. -/
def similar (name : String) (candidates : List String) (bound limit : Int) : List String :=
  let scored := (candidates.eraseDups.filterMap (score? name bound)).mergeSort Scored.precedes
  takeInt limit (scored.map (·.candidate))

/-- The names suggested for an unknown one: at most three, at most two edits away. -/
def suggest (name : String) (visible : List String) : List String := similar name visible 2 3

end Suggestion
end ChocoLang
