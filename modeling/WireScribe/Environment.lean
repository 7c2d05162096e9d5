import WireScribe.Access
import WireScribe.Value

/-!
# WireScribe.Environment — where a program finds its values

An `Environment` knows values by the dotted text of their path, and a later
binding of a path replaces an earlier one. A `Scope` holds the items of the loops
that are under way, by the name that each loop binds.
-/

namespace WireScribe

/-- Values by path. -/
structure Environment where
  /-- The bindings, the latest first. -/
  entries : List (String × Value) := []

namespace Environment

/-- Binds a path to a value. -/
def bind (env : Environment) (path : String) (v : Value) : Environment :=
  ⟨(path, v) :: env.entries⟩

/-- Binds the path of an access to a value. -/
def bindAccess (env : Environment) (a : Access) (v : Value) : Environment :=
  env.bind a.text v

/-- The value of a path. -/
def get? (env : Environment) (path : String) : Option Value :=
  env.entries.lookup path

@[simp] theorem get?_bind (env : Environment) (path query : String) (v : Value) :
    (env.bind path v).get? query = if query = path then some v else env.get? query := by
  by_cases h : query = path
  · simp [get?, bind, h]
  · have hb : (query == path) = false := by simpa using h
    simp [get?, bind, List.lookup_cons, hb, h]

end Environment

/-- The items of the loops under way. -/
structure Scope where
  entries : List (Binding × Value) := []

namespace Scope

/-- The current item under a bound name. -/
def get? (scope : Scope) (b : Binding) : Option Value :=
  scope.entries.lookup b

/-- Forgets a bound name. -/
def erase (scope : Scope) (b : Binding) : Scope :=
  ⟨scope.entries.filter (·.1 != b)⟩

/-- Makes an item the current one under a bound name. -/
def insert (scope : Scope) (b : Binding) (v : Value) : Scope :=
  ⟨(b, v) :: (scope.erase b).entries⟩

/-- A forgotten name has no item, and the other names keep theirs. -/
@[simp] theorem get?_erase (scope : Scope) (b query : Binding) :
    (scope.erase b).get? query = if query = b then none else scope.get? query := by
  obtain ⟨entries⟩ := scope
  induction entries with
  | nil => simp [get?, erase]
  | cons e rest ih =>
    obtain ⟨c, v⟩ := e
    simp only [get?, erase] at ih ⊢
    by_cases hc : c = b
    · -- the head is forgotten, and only a query for `b` could have met it
      subst hc
      have hdrop : ((c, v) :: rest).filter (·.1 != c) = rest.filter (·.1 != c) := by simp
      rw [hdrop, ih]
      by_cases hq : query = c
      · rw [if_pos hq, if_pos hq]
      · have hb : (query == c) = false := by simpa using hq
        rw [if_neg hq, if_neg hq, List.lookup_cons, hb]
    · by_cases hq : query = c
      · subst hq
        simp [hc]
      · have hb : (query == c) = false := by simpa using hq
        simp [hc, List.lookup_cons, hb, ih]

/-- The name that was given an item has it, and the other names keep theirs. -/
@[simp] theorem get?_insert (scope : Scope) (b query : Binding) (v : Value) :
    (scope.insert b v).get? query = if query = b then some v else scope.get? query := by
  have herase := get?_erase scope b query
  simp only [get?, erase] at herase
  by_cases h : query = b
  · simp [get?, insert, h]
  · have hb : (query == b) = false := by simpa using h
    simp only [get?, insert, erase, List.lookup_cons, hb, if_neg h, herase]

end Scope

end WireScribe
