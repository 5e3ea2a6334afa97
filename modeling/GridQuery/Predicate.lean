import GridQuery.Sql.Condition

/-!
# Predicates

Tests of records. A predicate may come with a condition by which a database selects the same records;
one without can only be used on records in memory.
-/

namespace GridQuery

/-- A test of records, with an equivalent query condition if there is one. -/
structure Predicate (ρ : Type) where
  test : ρ → Bool
  condition : Option Sql.Condition

namespace Predicate

variable {ρ : Type}

def new (test : ρ → Bool) (condition : Sql.Condition) : Predicate ρ :=
  ⟨test, some condition⟩

def ofTest (test : ρ → Bool) : Predicate ρ :=
  ⟨test, none⟩

def always : Predicate ρ :=
  new (fun _ => true) .always

/-- The condition of two, if both have one. -/
def joinConditions (join : List Sql.Condition → Sql.Condition)
    (left right : Option Sql.Condition) : Option Sql.Condition :=
  match left, right with
  | some left, some right => some (join [left, right])
  | _, _ => none

def and (left right : Predicate ρ) : Predicate ρ :=
  ⟨fun record => left.test record && right.test record,
    joinConditions .all left.condition right.condition⟩

def or (left right : Predicate ρ) : Predicate ρ :=
  ⟨fun record => left.test record || right.test record,
    joinConditions .any left.condition right.condition⟩

/-- Accepts what any of a list accepts. There is no such predicate for the empty list. -/
def anyOf : List (Predicate ρ) → Option (Predicate ρ)
  | [] => none
  | first :: others => some (others.foldl or first)

end Predicate

end GridQuery
