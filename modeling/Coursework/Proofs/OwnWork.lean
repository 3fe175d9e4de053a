import Mathlib.Logic.Relation
import Coursework.Proofs.MatrixCells
import Coursework.Screen.Course
import Coursework.Screen.Lab
import Coursework.Screen.Labs

/-!
# What students see of submissions

Three screens show a student the submissions of a course: the report of one lab, the list of all
labs, and the lines under the links of the menu. `student_sees_own_work_only` says that they show
the student's own work, and that nothing on them moves when submissions of others come, go or
change, wherever these stand in the list.

Selection and review book count for as little. The report of a lab does read the selection, but
for teachers only.
-/

namespace Coursework

/-- One entry that is not one's own is put in, is taken out, or changes and stays not one's own. -/
inductive ForeignEdit {α : Type} (own : α → Prop) : List α → List α → Prop where
  | inserted {before after entry} (foreign : ¬ own entry) :
      ForeignEdit own (before ++ after) (before ++ entry :: after)
  | removed {before after entry} (foreign : ¬ own entry) :
      ForeignEdit own (before ++ entry :: after) (before ++ after)
  | altered {before after old new} (foreign : ¬ own old) (stays : ¬ own new) :
      ForeignEdit own (before ++ old :: after) (before ++ new :: after)

/-- Foreign edits one after the other, as many as there may be. -/
abbrev ForeignEdits {α : Type} (own : α → Prop) : List α → List α → Prop :=
  Relation.ReflTransGen (ForeignEdit own)

section Search

variable {α : Type} {own : α → Prop} {test : α → Bool}
  (ownOnly : ∀ entry, test entry = true → own entry) {entries others : List α}
include ownOnly

/-- A search for one's own entries passes over the others. -/
theorem find?_of_foreignEdit (edit : ForeignEdit own entries others) :
    others.find? test = entries.find? test := by
  have skips {before after : List α} {entry : α} (foreign : ¬ own entry) :
      (before ++ entry :: after).find? test = (before ++ after).find? test := by
    have fails : ¬ test entry = true := fun passes => foreign (ownOnly entry passes)
    rw [List.find?_append, List.find?_append, List.find?_cons_of_neg fails]
  cases edit with
  | inserted foreign => exact skips foreign
  | removed foreign => exact (skips foreign).symm
  | altered foreign stays => exact (skips stays).trans (skips foreign).symm

theorem find?_of_foreignEdits (edits : ForeignEdits own entries others) :
    others.find? test = entries.find? test := by
  induction edits with
  | refl => rfl
  | tail _ edit ih => exact (find?_of_foreignEdit ownOnly edit).trans ih

end Search

/-- The store with other submissions, another selection and another review book. -/
def Store.replacing (store : Store) (submissions : List Submission) (selection : Selection)
    (review : ReviewBook) : Store :=
  { store with course := { store.course with submissions }, selection, review }

@[simp] theorem Store.replacing_auth (store : Store) (submissions : List Submission)
    (selection : Selection) (review : ReviewBook) :
    (store.replacing submissions selection review).auth = store.auth := rfl

namespace Gradebook

variable {book : Gradebook} {userId : Id} {assignment : Assignment} {submission : Submission}

/-- A submission is a user's work: delivered by the user alone, or by the group on the user's
enrollment. -/
inductive WorkOf (book : Gradebook) (userId : Id) (submission : Submission) : Prop where
  | alone (own : submission.userId = userId) (ungrouped : submission.groupId = 0)
  | withGroup {enrollment} (enrolled : book.enrollmentOf? userId = some enrollment)
      (grouped : 0 < submission.groupId) (own : submission.groupId = enrollment.groupId)

instance (book : Gradebook) (userId : Id) (submission : Submission) :
    Decidable (book.WorkOf userId submission) :=
  decidable_of_iff
    (submission.userId = userId ∧ submission.groupId = 0 ∨
      0 < submission.groupId ∧
        ∃ enrollment ∈ book.enrollmentOf? userId, submission.groupId = enrollment.groupId)
    ⟨by
      rintro (⟨own, ungrouped⟩ | ⟨grouped, enrollment, enrolled, own⟩)
      · exact .alone own ungrouped
      · exact .withGroup enrolled grouped own,
    by
      rintro (⟨own, ungrouped⟩ | ⟨enrolled, grouped, own⟩)
      · exact .inl ⟨own, ungrouped⟩
      · exact .inr ⟨grouped, _, enrolled, own⟩⟩

/-- What an enrollment delivers, for whatever lab, is the work of its user. -/
theorem WorkOf.of_delivers {enrollment : Enrollment}
    (enrolled : book.enrollmentOf? userId = some enrollment)
    (delivers : Delivers (.enrollment enrollment) assignment submission) :
    book.WorkOf userId submission := by
  cases delivers with
  | withGroup _ grouped own => exact .withGroup enrolled (own ▸ grouped) own
  | alone _ own ungrouped => exact .alone (own.trans (Store.key_of_find? enrolled)) ungrouped

theorem workOf_of_submissionOf? (found : book.submissionOf? userId assignment = some submission) :
    book.WorkOf userId submission := by
  obtain ⟨enrollment, enrolled, delivered⟩ := Option.bind_eq_some_iff.mp found
  exact .of_delivers enrolled (submissionFor?_eq_some_iff.mp delivered).1.2

/-- What is found for a user does not depend on the work of others. -/
theorem submissionOf?_of_foreignEdits {submissions : List Submission}
    (edits : ForeignEdits (book.WorkOf userId) book.submissions submissions)
    (assignment : Assignment) :
    { book with submissions }.submissionOf? userId assignment =
      book.submissionOf? userId assignment := by
  have sameEnrollment :
      { book with submissions }.enrollmentOf? userId = book.enrollmentOf? userId := rfl
  unfold submissionOf?
  rw [sameEnrollment]
  cases enrolled : book.enrollmentOf? userId with
  | none => rfl
  | some enrollment =>
    refine find?_of_foreignEdits ?_ edits
    intro submission passes
    obtain ⟨_, owns⟩ := (Bool.and_eq_true _ _).mp passes
    exact .of_delivers enrolled (Owner.owns_iff.mp owns)

end Gradebook

namespace Screen

/-- A menu prints the same for stores that agree on the lines under its links. -/
theorem html_menu_congr {store other : Store}
    (lines : ∀ assignmentId, labLine other.course other.auth.selfId assignmentId =
      labLine store.course store.auth.selfId assignmentId)
    (entries : List Navigation.Entry) (location : String) :
    (menu entries location).html other = (menu entries location).html store := by
  have sameLink : menuLink other location = menuLink store location := by
    funext link
    simp only [menuLink, lines]
  have sameEntry : menuEntry other location = menuEntry store location := by
    funext entry
    simp only [menuEntry, sameLink]
  simp only [menu, still, sameEntry]

section Replacing

variable {store : Store} {submissions : List Submission} {selection : Selection}
  {review : ReviewBook}

/-- The frame of a course shows no more of submissions than the lines of its menu. -/
theorem html_framed_congr
    (lines : ∀ assignmentId,
      labLine (store.replacing submissions selection review).course store.auth.selfId
        assignmentId = labLine store.course store.auth.selfId assignmentId)
    {screen : Screen}
    (inside : screen.html (store.replacing submissions selection review) = screen.html store)
    (location : String) :
    (framed location screen).html (store.replacing submissions selection review) =
      (framed location screen).html store := by
  have sameMenu := html_menu_congr lines (storeMenu store location) location
  have sameEntries : storeMenu (store.replacing submissions selection review) location =
      storeMenu store location := rfl
  simp only [framed, sameEntries, sameMenu, inside]
  rfl

end Replacing

/-- What is shown of submissions to the signed-in user is the same in two stores: what the screens
are made from, and the pages that are printed in the end, in the frame of the course. -/
structure SameLabScreens (store other : Store) : Prop where
  found : ∀ lab, shownSubmission? other lab = shownSubmission? store lab
  entries : labEntries other.course other.auth.selfId = labEntries store.course store.auth.selfId
  lines : ∀ assignmentId, labLine other.course other.auth.selfId assignmentId =
    labLine store.course store.auth.selfId assignmentId
  labPage : ∀ location id,
    (framed location (lab id)).html other = (framed location (lab id)).html store
  labsPage : ∀ location, (framed location labs).html other = (framed location labs).html store

section Student

variable {store : Store} (student : store.course.isTeacher store.auth.selfId = false)
include student

/-- A student is shown what they delivered for the lab of the address. -/
theorem shownSubmission?_of_student (lab : Option Id) :
    shownSubmission? store lab = ownSubmission? store.course store.auth.selfId lab := by
  unfold shownSubmission?
  rw [student]
  rfl

theorem workOf_of_shownSubmission? {lab : Option Id} {shown : ShownSubmission}
    (found : shownSubmission? store lab = some shown) :
    store.course.WorkOf store.auth.selfId shown.submission := by
  rw [shownSubmission?_of_student student, ownSubmission?] at found
  obtain ⟨labId, _, found⟩ := Option.bind_eq_some_iff.mp found
  obtain ⟨assignment, _, found⟩ := Option.bind_eq_some_iff.mp found
  obtain ⟨submission, delivered, same⟩ := Option.bind_eq_some_iff.mp found
  rw [← Option.some.inj same]
  exact Gradebook.workOf_of_submissionOf? delivered

/-- The screens of a student are made from what is found for the student. -/
theorem sameLabScreens_of_submissionOf? {submissions : List Submission} {selection : Selection}
    {review : ReviewBook}
    (sameWork : (store.replacing submissions selection review).course.submissionOf?
      store.auth.selfId = store.course.submissionOf? store.auth.selfId) :
    SameLabScreens store (store.replacing submissions selection review) := by
  have found : ∀ lab, shownSubmission? (store.replacing submissions selection review) lab =
      shownSubmission? store lab := by
    intro lab
    have stillStudent : (store.replacing submissions selection review).course.isTeacher
        (store.replacing submissions selection review).auth.selfId = false := student
    rw [shownSubmission?_of_student student, shownSubmission?_of_student stillStudent]
    unfold ownSubmission?
    rw [Store.replacing_auth, sameWork]
    rfl
  have entries : labEntries (store.replacing submissions selection review).course
      store.auth.selfId = labEntries store.course store.auth.selfId := by
    unfold labEntries
    rw [sameWork]
    rfl
  have lines : ∀ assignmentId,
      labLine (store.replacing submissions selection review).course store.auth.selfId
        assignmentId = labLine store.course store.auth.selfId assignmentId := by
    intro assignmentId
    unfold labLine
    rw [sameWork]
    rfl
  refine ⟨found, entries, lines, ?_, ?_⟩
  · intro location id
    refine html_framed_congr lines ?_ location
    simp only [lab, labReport, still, found]
    rfl
  · intro location
    refine html_framed_congr lines ?_ location
    simp only [labs, still, Store.replacing_auth, entries]

end Student

/-- A student's screens show work of the student only. They are the same whatever happens to the
work of others, and whatever selection and review book there are. -/
theorem student_sees_own_work_only (store : Store)
    (student : store.course.isTeacher store.auth.selfId = false) :
    (∀ lab shown, shownSubmission? store lab = some shown →
      store.course.WorkOf store.auth.selfId shown.submission) ∧
    ∀ submissions,
      ForeignEdits (store.course.WorkOf store.auth.selfId) store.course.submissions submissions →
      ∀ selection review, SameLabScreens store (store.replacing submissions selection review) := by
  refine ⟨fun lab shown found => workOf_of_shownSubmission? student found, ?_⟩
  intro submissions edits selection review
  have sameWork := funext (Gradebook.submissionOf?_of_foreignEdits edits)
  exact sameLabScreens_of_submissionOf? student sameWork

/-- A student in a group, another student outside of it, and a lab of each kind. -/
def classStore : Store :=
  { Store.initial with
    auth := ⟨some { User.blank with id := 200 }, false⟩
    course :=
      { Gradebook.empty with
        courseId := 1
        course := some ⟨1, "DAT320", "", 2024, 100, 0⟩
        assignments :=
          [⟨10, 1, "Alone", "", 80, 1, false, false, 0⟩, ⟨20, 1, "Pair", "", 80, 2, true, false, 0⟩]
        enrollments :=
          [⟨1, 1, 200, none, .student, 7, 0, "", 0⟩, ⟨2, 1, 300, none, .student, 0, 0, "", 0⟩]
        submissions :=
          [{ Submission.blank with id := 50, assignmentId := 10, userId := 300, score := 40 },
            { Submission.blank with id := 51, assignmentId := 10, userId := 200, score := 90 },
            { Submission.blank with id := 52, assignmentId := 20, groupId := 7, score := 60 }]
        loaded := true } }

/-- Another group comes first, and the other student's score has changed. -/
def busySubmissions : List Submission :=
  [{ Submission.blank with id := 53, assignmentId := 20, groupId := 8, score := 100 },
    { Submission.blank with id := 50, assignmentId := 10, userId := 300, score := 95 },
    { Submission.blank with id := 51, assignmentId := 10, userId := 200, score := 90 },
    { Submission.blank with id := 52, assignmentId := 20, groupId := 7, score := 60 }]

theorem student_sees_own_work_only_in_class :
    classStore.course.isTeacher classStore.auth.selfId = false ∧
      (∃ shown, shownSubmission? classStore (some 20) = some shown ∧
        classStore.course.WorkOf classStore.auth.selfId shown.submission) ∧
      ForeignEdits (classStore.course.WorkOf classStore.auth.selfId)
        classStore.course.submissions busySubmissions ∧
      SameLabScreens classStore
        (classStore.replacing busySubmissions
          { Selection.initial with selectedSubmission := some Submission.blank } .initial) := by
  have student : classStore.course.isTeacher classStore.auth.selfId = false := by decide
  obtain ⟨ownOnly, unmoved⟩ := student_sees_own_work_only classStore student
  have edits : ForeignEdits (classStore.course.WorkOf classStore.auth.selfId)
      classStore.course.submissions busySubmissions := by
    refine .tail (.single (@ForeignEdit.altered _ _ [] _ _ _ ?_ ?_))
      (@ForeignEdit.inserted _ _ [] _ _ ?_)
    · decide
    · decide
    · decide
  exact ⟨student, ⟨_, rfl, ownOnly (some 20) _ rfl⟩, edits, unmoved _ edits _ _⟩

end Screen

end Coursework
