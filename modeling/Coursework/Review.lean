import Coursework.User

/-!
# Manual reviews

A reviewer grades a submission by criteria, which stand under headings.
-/

namespace Coursework

/-- The outcome of one criterion. -/
inductive CriterionGrade where
  | none
  | passed
  | failed
  deriving DecidableEq

/-- There is no grade at first. -/
instance : Inhabited CriterionGrade := ⟨.none⟩

/-- One thing to grade. -/
structure Criterion where
  id : Id
  description : String
  grade : CriterionGrade
  deriving DecidableEq, Inhabited

/-- Criteria under a heading. -/
structure Benchmark where
  id : Id
  heading : String
  criteria : List Criterion
  deriving DecidableEq, Inhabited

/-- A review of a submission by one reviewer. -/
structure Review where
  id : Id
  submissionId : Id
  reviewerId : Id
  score : UInt32
  ready : Bool
  edited : String
  feedback : String
  benchmarks : List Benchmark
  deriving DecidableEq, Inhabited

namespace Review

/-- All criteria, in order. -/
def criteria (review : Review) : List Criterion :=
  review.benchmarks.flatMap (·.criteria)

/-- The number of criteria with a grade. -/
def gradedCount (review : Review) : Nat :=
  review.criteria.countP (·.grade ≠ .none)

/-- The number of criteria. -/
def criteriaTotal (review : Review) : Nat :=
  review.criteria.length

end Review

end Coursework
