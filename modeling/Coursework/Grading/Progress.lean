import Coursework.Course
import Coursework.Submission

/-!
# Progress

How far a submission is from the score limit of its assignment: a thin line under a link of the
lab navigation, and elsewhere a bar with the score and the distance that is left.
-/

namespace Coursework.Grading

/-- Where progress is shown. Only the bar of a lab has texts. -/
inductive ProgressMode where
  | nav
  | lab
  | overview
  deriving DecidableEq

/-- One part of a bar. -/
structure Segment where
  widthPercent : UInt32
  cssClass : String
  text : String
  deriving DecidableEq

/-- Progress as it is shown. -/
inductive Progress where
  /-- A line of that colour, which ends at a distance from the right. -/
  | line (color : String) (rightPercent : UInt32)
  /-- The score, and what is left up to the limit unless that is reached. -/
  | bar (primary : Segment) (secondary : Option Segment)
  deriving DecidableEq

/-- The class of the score's part of a bar. -/
def barClass : SubmissionStatus → String
  | .none => "bg-primary"
  | .approved => "bg-success"
  | .rejected => "bg-danger"
  | .revision => "bg-warning text-dark"

/-- How far a score is below a limit, zero if it is not. -/
def missingPercent (limit score : UInt32) : UInt32 :=
  if score < limit then limit - score else 0

/-- The progress of a submission as a viewer sees it. A missing submission has no score, and a
missing assignment no limit. -/
def progress (submission : Option Submission) (assignment : Option Assignment)
    (mode : ProgressMode) (viewerId : Id) : Progress :=
  let score := (submission.map (·.displayScore)).getD 0
  let limit := (assignment.map (·.scoreLimit)).getD 0
  let missing := missingPercent limit score
  let status := (submission.map (·.statusFor viewerId)).getD .none
  let text (percent : UInt32) := if mode = .lab then toString percent ++ "%" else ""
  if mode = .nav then .line (if limit ≤ score then "green" else "yellow") (100 - score)
  else
    .bar ⟨score, barClass status, text score⟩
      (if 0 < missing then
        some ⟨missing, "progressbar-secondary bg-secondary", text missing⟩
      else none)

end Coursework.Grading
