import Coursework.Numeral.Shortest
import Coursework.Review
import Coursework.Store.Upsert

/-!
# The review book

The manual reviews of a course by submission, and the settings of the review screen.
-/

namespace Coursework

/-- Reviews by the identifier of their submission, in the order of the identifiers. -/
structure Shelf where
  entries : List (Id × List Review)
  sorted : entries.Pairwise fun first second => first.1 < second.1
  deriving DecidableEq

namespace Shelf

/-- No reviews. -/
def empty : Shelf := ⟨[], .nil⟩

/-- The reviews under an identifier. -/
def get (shelf : Shelf) (id : Id) : List Review :=
  (shelf.entries.lookup id).getD []

/-- Entries with the reviews under an identifier changed. -/
def modified (id : Id) (change : List Review → List Review) :
    List (Id × List Review) → List (Id × List Review)
  | [] => [(id, change [])]
  | (other, reviews) :: rest =>
    if id = other then (other, change reviews) :: rest
    else if id < other then (id, change []) :: (other, reviews) :: rest
    else (other, reviews) :: modified id change rest

/-- Only the changed identifier can be new. -/
theorem key_of_mem_modified {id : Id} {change : List Review → List Review}
    {entries : List (Id × List Review)} {entry : Id × List Review}
    (member : entry ∈ modified id change entries) :
    entry.1 = id ∨ ∃ old ∈ entries, old.1 = entry.1 := by
  induction entries with
  | nil =>
    have same : entry = (id, change []) := by simpa [modified] using member
    exact .inl (by rw [same])
  | cons head rest ih =>
    unfold modified at member
    split at member
    · rcases List.mem_cons.mp member with same | tail
      · exact .inr ⟨head, List.mem_cons_self, by rw [same]⟩
      · exact .inr ⟨entry, List.mem_cons_of_mem _ tail, rfl⟩
    · split at member
      · rcases List.mem_cons.mp member with same | old
        · exact .inl (by rw [same])
        · exact .inr ⟨entry, old, rfl⟩
      · rcases List.mem_cons.mp member with same | tail
        · exact .inr ⟨head, List.mem_cons_self, by rw [same]⟩
        · rcases ih tail with fresh | ⟨old, oldMember, sameKey⟩
          · exact .inl fresh
          · exact .inr ⟨old, List.mem_cons_of_mem _ oldMember, sameKey⟩

theorem sorted_modified {id : Id} {change : List Review → List Review}
    {entries : List (Id × List Review)}
    (sorted : entries.Pairwise fun first second => first.1 < second.1) :
    (modified id change entries).Pairwise fun first second => first.1 < second.1 := by
  induction entries with
  | nil => exact List.pairwise_singleton _ _
  | cons head rest ih =>
    obtain ⟨headLess, restSorted⟩ := List.pairwise_cons.mp sorted
    unfold modified
    split
    · exact List.pairwise_cons.mpr ⟨headLess, restSorted⟩
    · rename_i different
      split
      · rename_i less
        refine List.pairwise_cons.mpr ⟨?_, sorted⟩
        intro entry member
        rcases List.mem_cons.mp member with same | tail
        · rw [same]
          exact less
        · exact UInt64.lt_trans less (headLess entry tail)
      · rename_i notLess
        refine List.pairwise_cons.mpr ⟨?_, ih restSorted⟩
        intro entry member
        rcases key_of_mem_modified member with fresh | ⟨old, oldMember, sameKey⟩
        · have greater := UInt64.lt_of_le_of_ne (UInt64.not_lt.mp notLess) (Ne.symm different)
          rw [fresh]
          exact greater
        · rw [← sameKey]
          exact headLess old oldMember

/-- Changes the reviews under an identifier. -/
def modify (id : Id) (change : List Review → List Review) (shelf : Shelf) : Shelf :=
  ⟨modified id change shelf.entries, sorted_modified shelf.sorted⟩

theorem lookup_cons (id : Id) (entry : Id × List Review) (rest : List (Id × List Review)) :
    (entry :: rest).lookup id = if id = entry.1 then some entry.2 else rest.lookup id := by
  obtain ⟨key, reviews⟩ := entry
  by_cases same : id = key
  · simp [same]
  · simp [List.lookup_cons, beq_eq_false_iff_ne.mpr same, same]

/-- Nothing lies under an identifier before the first. -/
theorem lookup_eq_none_of_less {id : Id} {entries : List (Id × List Review)}
    (less : ∀ entry ∈ entries, id < entry.1) : entries.lookup id = none := by
  rw [List.lookup_eq_none_iff]
  intro entry member
  exact bne_iff_ne.mpr (UInt64.ne_of_lt (less entry member))

/-- A change is seen under its identifier, and all else is as before. -/
theorem get_modify (shelf : Shelf) (id other : Id) (change : List Review → List Review) :
    (shelf.modify id change).get other =
      if other = id then change (shelf.get id) else shelf.get other := by
  obtain ⟨entries, sorted⟩ := shelf
  unfold modify get
  dsimp only
  induction entries with
  | nil => by_cases same : other = id <;> simp [modified, lookup_cons, same]
  | cons head rest ih =>
    obtain ⟨headLess, restSorted⟩ := List.pairwise_cons.mp sorted
    unfold modified
    split
    · rename_i here
      by_cases same : other = id
      · simp [lookup_cons, same, here]
      · have differs : other ≠ head.1 := fun equal => same (equal.trans here.symm)
        simp [lookup_cons, same, differs]
    · rename_i different
      split
      · rename_i less
        have unseen : (head :: rest).lookup id = none := by
          apply lookup_eq_none_of_less
          intro entry member
          rcases List.mem_cons.mp member with first | later
          · rw [first]
            exact less
          · exact UInt64.lt_trans less (headLess entry later)
        rw [unseen]
        by_cases same : other = id <;> simp [lookup_cons, same]
      · by_cases atHead : other = head.1
        · have differs : head.1 ≠ id := fun equal => different equal.symm
          simp [lookup_cons, atHead, differs]
        · simp only [lookup_cons, atHead, different, if_false]
          exact ih restSorted

end Shelf

/-- The reviews, and how they are looked at. -/
structure ReviewBook where
  reviews : Shelf
  /-- The assignment that the review matrix shows; a negative number shows all. -/
  assignmentId : Int64
  /-- The position of a review that was picked for the selected submission. -/
  selectedReview : Option Nat
  /-- The mean score from which a submission will be released; zero marks none. -/
  minimumScore : UInt32
  deriving DecidableEq

namespace ReviewBook

/-- No reviews, all assignments, no release threshold. -/
def initial : ReviewBook := ⟨.empty, -1, none, 0⟩

/-- Takes in a list of reviews in the place of all that were known. -/
def load (book : ReviewBook) (reviews : List Review) : ReviewBook :=
  { book with
    reviews := reviews.foldl (fun shelf r => shelf.modify r.submissionId (· ++ [r])) .empty }

/-- Takes in a review. -/
def upsert (book : ReviewBook) (review : Review) : ReviewBook :=
  { book with
    reviews := book.reviews.modify review.submissionId (Store.upsert (·.id) review) }

/-- The reviews of a submission. -/
def reviewsFor (book : ReviewBook) (submissionId : Id) : List Review :=
  book.reviews.get submissionId

/-- Taking in a review changes the reviews of its submission only. -/
theorem reviewsFor_upsert (book : ReviewBook) (review : Review) (submissionId : Id) :
    (book.upsert review).reviewsFor submissionId =
      if submissionId = review.submissionId then
        Store.upsert (·.id) review (book.reviewsFor review.submissionId)
      else book.reviewsFor submissionId :=
  Shelf.get_modify book.reviews review.submissionId submissionId _

/-- The review that the panel shows: the picked one, otherwise the user's own. -/
def currentReview? (book : ReviewBook) (submissionId selfId : Id) : Option Review :=
  let reviews := book.reviewsFor submissionId
  match book.selectedReview with
  | some position => reviews[position]?
  | none => Store.find? (·.reviewerId) selfId reviews

/-- The mean score of a submission's reviews, if there are any. -/
def averageScore? (book : ReviewBook) (submissionId : Id) : Option Numeral.Binary64 :=
  let reviews := book.reviewsFor submissionId
  if reviews.isEmpty then none
  else
    let total := reviews.foldl (fun sum r => sum + .ofNat r.score.toNat) Numeral.Binary64.zero
    some (total / .ofNat reviews.length)

end ReviewBook

end Coursework
