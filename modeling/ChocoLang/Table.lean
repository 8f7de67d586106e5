/-!
# Tables of names

A table assigns values to names and lists the names in the order in which they were first entered.
Entering a name again changes its value and keeps its place.
-/

namespace ChocoLang

/-- Values under names, in the order in which the names were first entered. -/
structure Table (α : Type) where
  /-- The names with their values. -/
  entries : List (String × α) := []
deriving Repr

namespace Table

variable {α : Type}

/-- The value entered under a name. -/
def find? (table : Table α) (name : String) : Option α := table.entries.lookup name

/-- A value is entered under the name. -/
def contains (table : Table α) (name : String) : Bool := (table.find? name).isSome

/-- The names, in the order in which they were first entered. -/
def names (table : Table α) : List String := table.entries.map Prod.fst

/-- The values, in the order of their names. -/
def values (table : Table α) : List α := table.entries.map Prod.snd

/-- Enters a value in a list of entries: in the place of its name, or else at the end. -/
def insertInto (name : String) (value : α) : List (String × α) → List (String × α)
  | [] => [(name, value)]
  | entry :: rest =>
    if name == entry.1 then (name, value) :: rest else entry :: insertInto name value rest

/-- Enters a value under a name. -/
def insert (table : Table α) (name : String) (value : α) : Table α :=
  { entries := insertInto name value table.entries }

/-- Removes a name and its value. -/
def erase (table : Table α) (name : String) : Table α :=
  { entries := table.entries.filter fun entry => entry.1 != name }

theorem lookup_insertInto (name other : String) (value : α) (entries : List (String × α)) :
    (insertInto name value entries).lookup other =
      if other == name then some value else entries.lookup other := by
  induction entries with
  | nil => cases same : other == name <;> simp [insertInto, List.lookup_cons, same]
  | cons entry rest ih =>
      obtain ⟨key, stored⟩ := entry
      simp only [insertInto]
      by_cases same : name = key
      · subst same
        simp only [beq_self_eq_true, if_true, List.lookup_cons]
        cases other == name <;> rfl
      · have differ : (name == key) = false := by simpa using same
        simp only [differ, Bool.false_eq_true, if_false, List.lookup_cons, ih]
        by_cases found : other = key
        · subst found
          have apart : ¬other = name := fun h => same h.symm
          simp [apart]
        · have missed : (other == key) = false := by simpa using found
          simp [missed]

/-- After entering a value, its name finds it and every other name finds what it did. -/
@[simp]
theorem find?_insert (table : Table α) (name other : String) (value : α) :
    (table.insert name value).find? other =
      if other == name then some value else table.find? other :=
  lookup_insertInto name other value table.entries

theorem lookup_filter (name other : String) (entries : List (String × α)) :
    (entries.filter fun entry => entry.1 != name).lookup other =
      if other == name then none else entries.lookup other := by
  induction entries with
  | nil => simp
  | cons entry rest ih =>
      obtain ⟨key, value⟩ := entry
      by_cases erased : key = name
      · subst erased
        cases same : other == key <;> simp [List.lookup_cons, ih, same]
      · have kept : (key != name) = true := by simpa using erased
        simp only [List.filter_cons, kept, if_true, List.lookup_cons, ih]
        by_cases found : other = key
        · simp [found, erased]
        · have missed : (other == key) = false := by simpa using found
          simp [missed]

/-- After erasing a name, it finds nothing and every other name finds what it did. -/
@[simp]
theorem find?_erase (table : Table α) (name other : String) :
    (table.erase name).find? other = if other == name then none else table.find? other :=
  lookup_filter name other table.entries

end Table
end ChocoLang
