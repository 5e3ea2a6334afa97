import GridQuery.Proofs.Filter.Agreement

/-!
# Predicates put together

Predicates are joined by AND and OR, and lists of them by OR alone.  A joined
predicate accepts what its parts say, and it has a condition if all parts have
one.  The condition of the whole is true on the same rows that the test accepts
as records: an open truth value of a part counts as a false one, and so it does
not matter how deep in the tree it stands.
-/

namespace GridQuery

variable {ρ : Type}

namespace Predicate

/-- The test accepts a record exactly if the condition is true on a row.  There
is nothing to agree on without a condition. -/
def AgreesAt (predicate : Predicate ρ) (record : ρ) (row : Sql.Row) : Prop :=
  ∀ condition, predicate.condition = some condition →
    (predicate.test record = true ↔ condition.truth row = some true)

variable {left right : Predicate ρ} {record : ρ} {row : Sql.Row}

theorem agreesAt_always (record : ρ) (row : Sql.Row) :
    (always : Predicate ρ).AgreesAt record row := by
  intro condition known
  cases known
  simp [always, new, Sql.Condition.always]

theorem joinConditions_eq_some_iff
    {join : List Sql.Condition → Sql.Condition}
    {left right : Option Sql.Condition} {condition : Sql.Condition} :
    joinConditions join left right = some condition ↔
      ∃ leftPart rightPart, left = some leftPart ∧ right = some rightPart ∧
        condition = join [leftPart, rightPart] := by
  cases left with
  | none => simp [joinConditions]
  | some leftPart =>
      cases right with
      | none => simp [joinConditions]
      | some rightPart => simp [joinConditions, eq_comm]

theorem isSome_joinConditions
    (join : List Sql.Condition → Sql.Condition)
    (left right : Option Sql.Condition) :
    (joinConditions join left right).isSome =
      (left.isSome && right.isSome) := by
  cases left with
  | none => rfl
  | some _ => cases right <;> rfl

theorem AgreesAt.and (leftAgrees : left.AgreesAt record row)
    (rightAgrees : right.AgreesAt record row) :
    (left.and right).AgreesAt record row := by
  intro condition known
  obtain ⟨leftPart, rightPart, leftKnown, rightKnown, rfl⟩ :=
    joinConditions_eq_some_iff.mp known
  have leftIff := leftAgrees leftPart leftKnown
  have rightIff := rightAgrees rightPart rightKnown
  simp [Predicate.and, leftIff, rightIff]

theorem AgreesAt.or (leftAgrees : left.AgreesAt record row)
    (rightAgrees : right.AgreesAt record row) :
    (left.or right).AgreesAt record row := by
  intro condition known
  obtain ⟨leftPart, rightPart, leftKnown, rightKnown, rfl⟩ :=
    joinConditions_eq_some_iff.mp known
  have leftIff := leftAgrees leftPart leftKnown
  have rightIff := rightAgrees rightPart rightKnown
  simp [Predicate.or, leftIff, rightIff]

theorem anyOf_eq_some_iff {predicates : List (Predicate ρ)}
    {predicate : Predicate ρ} :
    anyOf predicates = some predicate ↔
      ∃ first others, predicates = first :: others ∧
        predicate = others.foldl or first := by
  cases predicates with
  | nil => simp [anyOf]
  | cons first others =>
      constructor
      · intro built
        cases built
        exact ⟨first, others, rfl, rfl⟩
      · rintro ⟨_, _, ⟨⟩, rfl⟩
        rfl

theorem anyOf_eq_none_iff {predicates : List (Predicate ρ)} :
    anyOf predicates = none ↔ predicates = [] := by
  cases predicates <;> simp [anyOf]

theorem test_foldl_or (first : Predicate ρ) (others : List (Predicate ρ))
    (record : ρ) :
    (others.foldl or first).test record =
      (first :: others).any (·.test record) := by
  induction others generalizing first with
  | nil => simp
  | cons next others induction =>
      rw [List.foldl_cons, induction, List.any_cons, List.any_cons,
        List.any_cons, ← Bool.or_assoc]
      rfl

theorem isSome_condition_foldl_or (first : Predicate ρ)
    (others : List (Predicate ρ)) :
    (others.foldl or first).condition.isSome =
      (first :: others).all (·.condition.isSome) := by
  induction others generalizing first with
  | nil => simp
  | cons next others induction =>
      rw [List.foldl_cons, induction, List.all_cons, List.all_cons,
        List.all_cons, ← Bool.and_assoc]
      exact congrArg (· && _) (isSome_joinConditions _ _ _)

theorem agreesAt_foldl_or {first : Predicate ρ} {others : List (Predicate ρ)}
    (firstAgrees : first.AgreesAt record row)
    (othersAgree : ∀ other ∈ others, other.AgreesAt record row) :
    (others.foldl or first).AgreesAt record row := by
  induction others generalizing first with
  | nil => exact firstAgrees
  | cons next others induction =>
      obtain ⟨nextAgrees, restAgree⟩ := List.forall_mem_cons.mp othersAgree
      exact induction (firstAgrees.or nextAgrees) restAgree

end Predicate

/-- A tree of predicates. -/
inductive Combination (ρ : Type) where
  | leaf (predicate : Predicate ρ)
  | and (left right : Combination ρ)
  | or (left right : Combination ρ)
  | anyOf (members : List (Combination ρ))

namespace Combination

mutual

/-- The predicate of a tree.  A list without members has none, and so has every
tree with such a list in it. -/
def predicate? : Combination ρ → Option (Predicate ρ)
  | leaf predicate => some predicate
  | and left right =>
      left.predicate?.bind fun left => right.predicate?.map left.and
  | or left right =>
      left.predicate?.bind fun left => right.predicate?.map left.or
  | anyOf members => (predicates? members).bind Predicate.anyOf

def predicates? : List (Combination ρ) → Option (List (Predicate ρ))
  | [] => some []
  | member :: members =>
      member.predicate?.bind fun first =>
        (predicates? members).map (first :: ·)

end

mutual

/-- The predicates that a tree is made of. -/
def leaves : Combination ρ → List (Predicate ρ)
  | leaf predicate => [predicate]
  | and left right => left.leaves ++ right.leaves
  | or left right => left.leaves ++ right.leaves
  | anyOf members => leavesOfAll members

def leavesOfAll : List (Combination ρ) → List (Predicate ρ)
  | [] => []
  | member :: members => member.leaves ++ leavesOfAll members

end

mutual

/-- Whether a tree has a list without members in it. -/
def hasEmptyList : Combination ρ → Bool
  | leaf _ => false
  | and left right => left.hasEmptyList || right.hasEmptyList
  | or left right => left.hasEmptyList || right.hasEmptyList
  | anyOf members => members.isEmpty || haveEmptyList members

def haveEmptyList : List (Combination ρ) → Bool
  | [] => false
  | member :: members => member.hasEmptyList || haveEmptyList members

end

mutual

/-- What the tests of the leaves say together. -/
def accepts (record : ρ) : Combination ρ → Bool
  | leaf predicate => predicate.test record
  | and left right => left.accepts record && right.accepts record
  | or left right => left.accepts record || right.accepts record
  | anyOf members => anyAccepts record members

def anyAccepts (record : ρ) : List (Combination ρ) → Bool
  | [] => false
  | member :: members => member.accepts record || anyAccepts record members

end

/-- A predicate is what becomes of leaves when their tests are put together in
one way. -/
structure Describes (leaves : List (Predicate ρ)) (accepts : ρ → Bool)
    (predicate : Predicate ρ) : Prop where
  condition_isSome : predicate.condition.isSome =
    leaves.all (·.condition.isSome)
  test_eq : ∀ record, predicate.test record = accepts record
  agrees : ∀ record row, (∀ leaf ∈ leaves, leaf.AgreesAt record row) →
    predicate.AgreesAt record row

/-- The same of several predicates, of which one has to accept. -/
structure DescribesAll (leaves : List (Predicate ρ)) (accepts : ρ → Bool)
    (predicates : List (Predicate ρ)) : Prop where
  condition_isSome : predicates.all (·.condition.isSome) =
    leaves.all (·.condition.isSome)
  test_eq : ∀ record, predicates.any (·.test record) = accepts record
  agrees : ∀ record row, (∀ leaf ∈ leaves, leaf.AgreesAt record row) →
    ∀ predicate ∈ predicates, predicate.AgreesAt record row

section Describing

variable {leaves others : List (Predicate ρ)} {accepts alsoAccepts : ρ → Bool}
  {left right predicate : Predicate ρ} {predicates : List (Predicate ρ)}

theorem Describes.and (leftDescribes : Describes leaves accepts left)
    (rightDescribes : Describes others alsoAccepts right) :
    Describes (leaves ++ others)
      (fun record => accepts record && alsoAccepts record)
      (left.and right) where
  condition_isSome := by
    rw [List.all_append, ← leftDescribes.condition_isSome,
      ← rightDescribes.condition_isSome]
    exact Predicate.isSome_joinConditions _ _ _
  test_eq record := by
    rw [← leftDescribes.test_eq, ← rightDescribes.test_eq]
    rfl
  agrees record row leavesAgree := by
    obtain ⟨leftAgree, rightAgree⟩ := List.forall_mem_append.mp leavesAgree
    exact (leftDescribes.agrees record row leftAgree).and
      (rightDescribes.agrees record row rightAgree)

theorem Describes.or (leftDescribes : Describes leaves accepts left)
    (rightDescribes : Describes others alsoAccepts right) :
    Describes (leaves ++ others)
      (fun record => accepts record || alsoAccepts record)
      (left.or right) where
  condition_isSome := by
    rw [List.all_append, ← leftDescribes.condition_isSome,
      ← rightDescribes.condition_isSome]
    exact Predicate.isSome_joinConditions _ _ _
  test_eq record := by
    rw [← leftDescribes.test_eq, ← rightDescribes.test_eq]
    rfl
  agrees record row leavesAgree := by
    obtain ⟨leftAgree, rightAgree⟩ := List.forall_mem_append.mp leavesAgree
    exact (leftDescribes.agrees record row leftAgree).or
      (rightDescribes.agrees record row rightAgree)

theorem DescribesAll.cons (first : Describes leaves accepts predicate)
    (rest : DescribesAll others alsoAccepts predicates) :
    DescribesAll (leaves ++ others)
      (fun record => accepts record || alsoAccepts record)
      (predicate :: predicates) where
  condition_isSome := by
    rw [List.all_append, List.all_cons, first.condition_isSome,
      rest.condition_isSome]
  test_eq record := by
    rw [List.any_cons, first.test_eq, rest.test_eq]
  agrees record row leavesAgree := by
    obtain ⟨firstAgree, restAgree⟩ := List.forall_mem_append.mp leavesAgree
    exact List.forall_mem_cons.mpr ⟨first.agrees record row firstAgree,
      rest.agrees record row restAgree⟩

theorem DescribesAll.anyOf (describes : DescribesAll leaves accepts predicates)
    (built : Predicate.anyOf predicates = some predicate) :
    Describes leaves accepts predicate := by
  obtain ⟨first, others, rfl, rfl⟩ := Predicate.anyOf_eq_some_iff.mp built
  constructor
  · rw [Predicate.isSome_condition_foldl_or, describes.condition_isSome]
  · intro record
    rw [Predicate.test_foldl_or, describes.test_eq]
  · intro record row leavesAgree
    obtain ⟨firstAgrees, othersAgree⟩ :=
      List.forall_mem_cons.mp (describes.agrees record row leavesAgree)
    exact Predicate.agreesAt_foldl_or firstAgrees othersAgree

end Describing

mutual

theorem describes_of_predicate? {combination : Combination ρ}
    {predicate : Predicate ρ}
    (built : combination.predicate? = some predicate) :
    Describes combination.leaves (combination.accepts ·) predicate := by
  cases combination with
  | leaf predicate =>
      cases built
      exact ⟨by simp [leaves], fun _ => rfl, fun record row agree =>
        agree predicate (by simp [leaves])⟩
  | and left right =>
      simp only [predicate?, Option.bind_eq_some_iff,
        Option.map_eq_some_iff] at built
      obtain ⟨first, builtFirst, second, builtSecond, rfl⟩ := built
      exact (describes_of_predicate? builtFirst).and
        (describes_of_predicate? builtSecond)
  | or left right =>
      simp only [predicate?, Option.bind_eq_some_iff,
        Option.map_eq_some_iff] at built
      obtain ⟨first, builtFirst, second, builtSecond, rfl⟩ := built
      exact (describes_of_predicate? builtFirst).or
        (describes_of_predicate? builtSecond)
  | anyOf members =>
      simp only [predicate?, Option.bind_eq_some_iff] at built
      obtain ⟨predicates, builtAll, joined⟩ := built
      exact (describesAll_of_predicates? builtAll).anyOf joined

theorem describesAll_of_predicates? {members : List (Combination ρ)}
    {predicates : List (Predicate ρ)}
    (built : predicates? members = some predicates) :
    DescribesAll (leavesOfAll members) (anyAccepts · members) predicates := by
  cases members with
  | nil =>
      cases built
      exact ⟨rfl, fun _ => rfl, by simp⟩
  | cons member members =>
      simp only [predicates?, Option.bind_eq_some_iff,
        Option.map_eq_some_iff] at built
      obtain ⟨first, builtFirst, others, builtOthers, rfl⟩ := built
      exact .cons (describes_of_predicate? builtFirst)
        (describesAll_of_predicates? builtOthers)

end

theorem predicates?_eq_some_nil_iff {members : List (Combination ρ)} :
    predicates? members = some [] ↔ members = [] := by
  cases members with
  | nil => simp [predicates?]
  | cons member members =>
      simp only [predicates?, Option.bind_eq_some_iff,
        Option.map_eq_some_iff, reduceCtorEq, and_false, exists_false]

mutual

theorem predicate?_eq_none_iff (combination : Combination ρ) :
    combination.predicate? = none ↔ combination.hasEmptyList = true := by
  cases combination with
  | leaf predicate => simp [predicate?, hasEmptyList]
  | and left right | or left right =>
      have leftIff := predicate?_eq_none_iff left
      have rightIff := predicate?_eq_none_iff right
      cases found : left.predicate? with
      | none => simp [predicate?, hasEmptyList, found, ← leftIff]
      | some predicate =>
          simp [predicate?, hasEmptyList, found, ← leftIff, ← rightIff]
  | anyOf members =>
      have membersIff := predicates?_eq_none_iff members
      have emptyIff : predicates? members = some [] ↔ members = [] :=
        predicates?_eq_some_nil_iff
      cases found : predicates? members with
      | none => simp [predicate?, hasEmptyList, found, ← membersIff]
      | some predicates =>
          simp [predicate?, hasEmptyList, found, ← membersIff,
            Predicate.anyOf_eq_none_iff, ← emptyIff]

theorem predicates?_eq_none_iff (members : List (Combination ρ)) :
    predicates? members = none ↔ haveEmptyList members = true := by
  cases members with
  | nil => simp [predicates?, haveEmptyList]
  | cons member members =>
      have memberIff := predicate?_eq_none_iff member
      have membersIff := predicates?_eq_none_iff members
      cases found : member.predicate? with
      | none => simp [predicates?, haveEmptyList, found, ← memberIff]
      | some predicate =>
          simp [predicates?, haveEmptyList, found, ← memberIff, ← membersIff]

end

/-- Only trees with an empty list in them have no predicate.  The predicate of
a tree has a condition exactly if every leaf has one, its test says of a record
what the tests of the leaves say of it together, and if the tests of the leaves
agree with their conditions, where they have any, so does the test of the
tree. -/
theorem predicate?_agrees (combination : Combination ρ) :
    Predicate.anyOf ([] : List (Predicate ρ)) = none ∧
    (combination.predicate? = none ↔ combination.hasEmptyList = true) ∧
    ∀ predicate, combination.predicate? = some predicate →
      (predicate.condition.isSome = true ↔
        ∀ leaf ∈ combination.leaves, leaf.condition.isSome = true) ∧
      (∀ record, predicate.test record = combination.accepts record) ∧
      ∀ (record : ρ) (row : Sql.Row),
        (∀ leaf ∈ combination.leaves, leaf.AgreesAt record row) →
        ∀ condition, predicate.condition = some condition →
          (predicate.test record = true ↔
            condition.truth row = some true) := by
  refine ⟨rfl, predicate?_eq_none_iff combination, ?_⟩
  intro predicate built
  have describes := describes_of_predicate? built
  refine ⟨?_, describes.test_eq, describes.agrees⟩
  rw [describes.condition_isSome, List.all_eq_true]

/-- Accepts the cells that hold one.  Two junctions with a single member lead to
its only test. -/
def isOne : Predicate Cell :=
  .new (fun cell => cell.value == .integer 1)
    (.join .any [.join .all [.test
      (.compare (.column "cell") .equal (.value (.integer 1)))]])

/-- Accepts nothing, by a junction without members. -/
def isNothing : Predicate Cell :=
  .new (fun _ => false) (.any [])

def isOneOrAnything : Combination Cell :=
  .or (.and (.leaf isOne) (.leaf .always))
    (.anyOf [.leaf isNothing, .and (.leaf .always) (.leaf .always)])

/-- On null the condition of one leaf is open, which leaves the answer to the
others. -/
theorem predicate?_agrees_openLeaf :
    (∀ leaf ∈ isOneOrAnything.leaves,
      leaf.AgreesAt ⟨.null⟩ (fun _ => .null)) ∧
    ∃ (predicate : Predicate Cell) (condition : Sql.Condition),
      isOneOrAnything.predicate? = some predicate ∧
      predicate.condition = some condition ∧
      predicate.test ⟨.null⟩ = true ∧
      condition.truth (fun _ => .null) = some true := by
  have leavesAgree : ∀ leaf ∈ isOneOrAnything.leaves,
      leaf.AgreesAt ⟨.null⟩ (fun _ => .null) := by
    have one : isOne.AgreesAt ⟨.null⟩ (fun _ => .null) := by
      rintro condition ⟨⟩
      decide +kernel
    have nothing : isNothing.AgreesAt ⟨.null⟩ (fun _ => .null) := by
      rintro condition ⟨⟩
      decide +kernel
    simp [isOneOrAnything, leaves, leavesOfAll, one, nothing,
      Predicate.agreesAt_always]
  obtain ⟨-, -, agrees⟩ := predicate?_agrees isOneOrAnything
  obtain ⟨carries, tests, agree⟩ := agrees _ rfl
  have carried : ∀ leaf ∈ isOneOrAnything.leaves,
      leaf.condition.isSome = true := by
    decide +kernel
  have accepted : isOneOrAnything.accepts ⟨.null⟩ = true := by decide +kernel
  obtain ⟨condition, known⟩ :=
    Option.isSome_iff_exists.mp (carries.mpr carried)
  refine ⟨leavesAgree, _, condition, rfl, known, ?_, ?_⟩
  · rw [tests, accepted]
  · rw [← agree ⟨.null⟩ (fun _ => .null) leavesAgree condition known, tests,
      accepted]

end Combination

end GridQuery
