/-!
# Bindings

The variables that a line can read, each with the text of its value.  A name is bound once; binding
it again replaces its value and keeps its place.
-/

namespace NoteCalc

/-- A name and the text of the value that it is bound to. -/
structure Assignment where
  name : String
  value : String
deriving Repr, DecidableEq

/-- The bound names with the texts of their values. -/
abbrev Bindings := List (String × String)

namespace Bindings

/-- Bind a name. -/
def assign (assignment : Assignment) : Bindings → Bindings
  | [] => [(assignment.name, assignment.value)]
  | (name, value) :: bindings =>
      if name = assignment.name then (name, assignment.value) :: bindings
      else (name, value) :: assign assignment bindings

/-- Whether a name is bound. -/
def binds (bindings : Bindings) (name : String) : Bool :=
  (bindings.lookup name).isSome

/-- The bound names. -/
def names (bindings : Bindings) : List String :=
  bindings.map Prod.fst

/-- The bindings that a series of assignments leaves, the last one of each name. -/
def ofAssignments (assignments : List (Option Assignment)) : Bindings :=
  assignments.foldl (fun bindings assignment => assignment.elim bindings (assign · bindings)) []

/-- After an assignment its name has its value, and every other name has what it had. -/
theorem lookup_assign (assignment : Assignment) (bindings : Bindings) (name : String) :
    (assign assignment bindings).lookup name =
      if name = assignment.name then some assignment.value else bindings.lookup name := by
  induction bindings with
  | nil =>
      by_cases same : name = assignment.name
      · simp [assign, same]
      · have different : (name == assignment.name) = false := by simp [same]
        simp [assign, List.lookup_cons, same, different]
  | cons binding bindings induction =>
      obtain ⟨bound, value⟩ := binding
      by_cases replaced : bound = assignment.name
      · by_cases same : name = assignment.name
        · simp [assign, replaced, same]
        · have different : (name == assignment.name) = false := by simp [same]
          simp [assign, List.lookup_cons, replaced, same, different]
      · by_cases here : name = bound
        · have other : name ≠ assignment.name := here ▸ replaced
          simp [assign, replaced, here]
        · have different : (name == bound) = false := by simp [here]
          simp [assign, List.lookup_cons, replaced, different, induction]

end Bindings

end NoteCalc
