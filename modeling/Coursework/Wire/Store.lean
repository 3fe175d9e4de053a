import Coursework.Store
import Coursework.Wire.Action

/-!
# Documents of the store

The written forms of the four slices, and of what changed from one store to the next.
-/

namespace Coursework.Wire

open Json

def auth (auth : Auth) : Json :=
  .object [("user", (Codec.option user).encode auth.user), ("loading", .bool auth.loading),
    ("self_id", Codec.uint64.encode auth.selfId)]

def gradebook (book : Gradebook) : Json :=
  .object [("course_id", Codec.uint64.encode book.courseId),
    ("course", (Codec.option course).encode book.course),
    ("assignments", (Codec.list assignment).encode book.assignments),
    ("enrollments", (Codec.list enrollment).encode book.enrollments),
    ("groups", (Codec.list group).encode book.groups),
    ("submissions", (Codec.list submission).encode book.submissions),
    ("loaded", .bool book.loaded), ("loading", .bool book.loading),
    ("notice", (Codec.option .string).encode book.notice)]

def matrixSort (sort : MatrixSort) : Json :=
  .object [("key", matrixSortKey.encode sort.key), ("ascending", .bool sort.ascending)]

def selection (selection : Selection) : Json :=
  .object [("active_group", (Codec.option group).encode selection.activeGroup),
    ("active_enrollment", (Codec.option enrollment).encode selection.activeEnrollment),
    ("selected_submission", (Codec.option submission).encode selection.selectedSubmission),
    ("selected_assignment_id", (Codec.option .uint64).encode selection.selectedAssignmentId),
    ("group_view", .bool selection.groupView),
    ("submission_sort", matrixSort selection.submissionSort)]

def reviewBook (book : ReviewBook) : Json :=
  .object [
    ("reviews", .object (book.reviews.entries.map fun (id, reviews) =>
      (toString id, (Codec.list review).encode reviews))),
    ("assignment_id", Codec.int64.encode book.assignmentId),
    ("selected_review", (Codec.option .index).encode book.selectedReview),
    ("minimum_score", Codec.uint32.encode book.minimumScore)]

/-- The slices in which a store differs from the one before. -/
def changes (before after : Store) : List (String × Json) :=
  (if before.auth = after.auth then [] else [("auth", auth after.auth)]) ++
  (if before.course = after.course then [] else [("course", gradebook after.course)]) ++
  (if before.selection = after.selection then []
    else [("selection", selection after.selection)]) ++
  (if before.review = after.review then [] else [("review", reviewBook after.review)])

end Coursework.Wire
