import Coursework.Proofs.KeyedLists
import Coursework.Store.ReviewBook

/-!
# Reviews taken in

A review book shelves the reviews that it loads by submission, and then takes in single reviews as
the backend sends them. `load_upsertAll_keepsReviews` says what lies under a submission after that,
and that a picked review stays picked.

The pick is a position among the reviews of a submission. It can be trusted because a review is
replaced where it stands or put at the end, so that a position never changes its identifier.
-/

namespace Coursework

namespace Shelf

/-- Two changes under one identifier are one change. -/
theorem modified_modified (id : Id) (first second : List Review → List Review)
    (entries : List (Id × List Review)) :
    modified id second (modified id first entries) =
      modified id (fun reviews => second (first reviews)) entries := by
  induction entries with
  | nil => simp [modified]
  | cons head rest ih =>
    by_cases here : id = head.1
    · simp [modified, here]
    · by_cases less : id < head.1
      · simp [modified, here, less]
      · simp [modified, here, less, ih]

theorem modify_modify (shelf : Shelf) (id : Id) (first second : List Review → List Review) :
    (shelf.modify id first).modify id second =
      shelf.modify id fun reviews => second (first reviews) := by
  unfold modify
  simp only [modified_modified]

/-- No two entries have one identifier, so each is the one that is found. -/
theorem get_of_mem_entries {shelf : Shelf} {entry : Id × List Review}
    (member : entry ∈ shelf.entries) : shelf.get entry.1 = entry.2 := by
  obtain ⟨entries, sorted⟩ := shelf
  unfold get
  dsimp only at member ⊢
  induction entries with
  | nil => exact absurd member List.not_mem_nil
  | cons head rest ih =>
    obtain ⟨headLess, restSorted⟩ := List.pairwise_cons.mp sorted
    rcases List.mem_cons.mp member with rfl | later
    · simp [lookup_cons]
    · have differs : entry.1 ≠ head.1 := (UInt64.ne_of_lt (headLess entry later)).symm
      rw [lookup_cons, if_neg differs]
      exact ih restSorted later

end Shelf

namespace ReviewBook

/-- Takes in reviews one after the other. -/
def upsertAll (book : ReviewBook) (news : List Review) : ReviewBook :=
  news.foldl upsert book

theorem upsertAll_concat (book : ReviewBook) (news : List Review) (review : Review) :
    book.upsertAll (news ++ [review]) = (book.upsertAll news).upsert review := by
  simp [upsertAll]

/-- A loaded list is grouped by submission, each group in the order of the list. -/
theorem reviewsFor_load (book : ReviewBook) (reviews : List Review) (submissionId : Id) :
    (book.load reviews).reviewsFor submissionId =
      reviews.filter (·.submissionId = submissionId) := by
  unfold load reviewsFor
  dsimp only
  induction reviews using List.reverseRecOn with
  | nil => rfl
  | append_singleton reviews review ih =>
    rw [List.foldl_append, List.foldl_cons, List.foldl_nil, Shelf.get_modify, List.filter_append]
    by_cases own : submissionId = review.submissionId
    · rw [if_pos own, ← own, ih]
      simp [own]
    · rw [if_neg own, ih]
      simp [Ne.symm own]

/-- The reviews of a submission are a list kept by identifier, which takes in what is sent for that
submission. -/
theorem reviewsFor_upsertAll (book : ReviewBook) (news : List Review) (submissionId : Id) :
    (book.upsertAll news).reviewsFor submissionId =
      Store.upsertAll (·.id) (book.reviewsFor submissionId)
        (news.filter (·.submissionId = submissionId)) := by
  induction news using List.reverseRecOn with
  | nil => rfl
  | append_singleton news review ih =>
    rw [upsertAll_concat, reviewsFor_upsert, List.filter_append]
    by_cases own : submissionId = review.submissionId
    · rw [if_pos own, ← own, ih]
      simp [own]
    · rw [if_neg own, ih]
      simp [Ne.symm own]

/-- Only the shelf changes while reviews are taken in. -/
theorem upsertAll_eq (book : ReviewBook) (news : List Review) :
    book.upsertAll news = { book with reviews := (book.upsertAll news).reviews } := by
  induction news using List.reverseRecOn with
  | nil => rfl
  | append_singleton news review ih =>
    rw [upsertAll_concat, ih]
    rfl

/-- Taking in a review again changes nothing. -/
theorem upsert_upsert (book : ReviewBook) (review : Review) :
    (book.upsert review).upsert review = book.upsert review := by
  unfold upsert
  dsimp only
  rw [Shelf.modify_modify]
  simp only [Store.upsert_upsert]

/-- Each review is found among those of its own submission. -/
theorem submissionId_of_mem_reviewsFor (prior : ReviewBook) (loaded news : List Review)
    {submissionId : Id} {review : Review}
    (member : review ∈ ((prior.load loaded).upsertAll news).reviewsFor submissionId) :
    review.submissionId = submissionId := by
  rw [reviewsFor_upsertAll, reviewsFor_load] at member
  rcases Store.mem_of_mem_upsertAll member with kept | sent
  · exact of_decide_eq_true (List.mem_filter.mp kept).2
  · exact of_decide_eq_true (List.mem_filter.mp sent).2

/-- The identifiers of a submission's reviews stay in their places. -/
theorem prefix_ids_upsertAll (book : ReviewBook) (news : List Review) (submissionId : Id) :
    (book.reviewsFor submissionId).map (·.id) <+:
      ((book.upsertAll news).reviewsFor submissionId).map (·.id) := by
  rw [reviewsFor_upsertAll]
  exact Store.prefix_map_upsertAll _ _ _

/-- A picked review is the current one for every reader, by its identifier, whatever is sent. -/
theorem currentReview?_upsertAll_of_picked {book : ReviewBook} {position : Nat}
    {submissionId : Id} {review : Review} (picked : book.selectedReview = some position)
    (there : (book.reviewsFor submissionId)[position]? = some review) (news : List Review)
    (selfId : Id) :
    ∃ now, (book.upsertAll news).currentReview? submissionId selfId = some now ∧
      now.id = review.id := by
  have stillPicked : (book.upsertAll news).selectedReview = some position := by
    rw [upsertAll_eq]
    exact picked
  have sameId : (((book.upsertAll news).reviewsFor submissionId).map (·.id))[position]? =
      some review.id := by
    have before : ((book.reviewsFor submissionId).map (·.id))[position]? = some review.id := by
      simp [there]
    obtain ⟨within, _⟩ := List.getElem?_eq_some_iff.mp before
    obtain ⟨newcomers, ids⟩ := prefix_ids_upsertAll book news submissionId
    rw [← ids, List.getElem?_append_left within, before]
  rw [List.getElem?_map] at sameId
  obtain ⟨now, here, equal⟩ := Option.map_eq_some_iff.mp sameId
  refine ⟨now, ?_, equal⟩
  unfold currentReview?
  rw [stillPicked]
  exact here

/-- What a book holds once a list has been loaded and reviews have been sent. -/
structure KeepsReviews (prior : ReviewBook) (loaded news : List Review) (book : ReviewBook) :
    Prop where
  /-- The reviews of a submission are at first those of the list, in its order. -/
  loadedFor : ∀ submissionId, (prior.load loaded).reviewsFor submissionId =
    loaded.filter (·.submissionId = submissionId)
  /-- Whatever is shelved lies under its own submission. -/
  own : ∀ entry ∈ book.reviews.entries, ∀ review ∈ entry.2, review.submissionId = entry.1
  /-- Identifiers that were distinct in the list are so under each submission. -/
  distinct : ∀ submissionId,
    (((prior.load loaded).reviewsFor submissionId).map (·.id)).Nodup →
    ((book.reviewsFor submissionId).map (·.id)).Nodup
  /-- One more review takes its place among those of its submission. -/
  taken : ∀ review : Review, Store.TakesPlace (·.id) review
    (book.reviewsFor review.submissionId)
    ((book.upsert review).reviewsFor review.submissionId)
  /-- The reviews of other submissions stay. -/
  untouched : ∀ (review : Review) submissionId, submissionId ≠ review.submissionId →
    (book.upsert review).reviewsFor submissionId = book.reviewsFor submissionId
  repeated : ∀ review, (book.upsert review).upsert review = book.upsert review
  /-- However many more are sent, each position keeps its identifier. -/
  positions : ∀ more submissionId, (book.reviewsFor submissionId).map (·.id) <+:
    ((book.upsertAll more).reviewsFor submissionId).map (·.id)
  /-- Once a position with a review has been picked, the current review has the identifier of that
  review for every reader. -/
  picked : ∀ position submissionId review,
    (book.reviewsFor submissionId)[position]? = some review →
    ∀ more selfId, ∃ now,
      ({ book with selectedReview := some position }.upsertAll more).currentReview? submissionId
        selfId = some now ∧ now.id = review.id
  /-- How the reviews are looked at stays as it was. -/
  settings : book = { prior with reviews := book.reviews }

/-- Whatever is loaded and whatever the backend sends after that, reviews lie under their own
submission, and what is at a position stays there by its identifier. -/
theorem load_upsertAll_keepsReviews (prior : ReviewBook) (loaded news : List Review) :
    KeepsReviews prior loaded news ((prior.load loaded).upsertAll news) where
  loadedFor := reviewsFor_load prior loaded
  own entry member review shelved := by
    rw [← Shelf.get_of_mem_entries member] at shelved
    exact submissionId_of_mem_reviewsFor prior loaded news shelved
  distinct submissionId atFirst := by
    rw [reviewsFor_upsertAll]
    exact Store.nodup_upsertAll _ atFirst
  taken review := by
    rw [reviewsFor_upsert, if_pos rfl]
    exact Store.takesPlace_upsert _ _ _
  untouched review submissionId other := by
    rw [reviewsFor_upsert, if_neg other]
  repeated := upsert_upsert _
  positions := prefix_ids_upsertAll _
  picked position submissionId review there := currentReview?_upsertAll_of_picked rfl there
  settings := upsertAll_eq (prior.load loaded) news

/-- A review without criteria. -/
def plainReview (id submissionId : Id) (score : UInt32) : Review :=
  ⟨id, submissionId, 300, score, false, "", "", []⟩

/-- Two reviews of one submission, and one of another. -/
def threeReviews : List Review := [plainReview 7 51 10, plainReview 7 52 20, plainReview 8 51 30]

/-- The second review of a submission is picked. A changed copy of it arrives between a review of
another submission and a new one, and the copy is then the current review. -/
theorem load_upsertAll_keepsReviews_of_picked :
    (((ReviewBook.initial.load threeReviews).upsertAll []).reviewsFor 51)[1]? =
        some (plainReview 8 51 30) ∧
      ∃ now, ({ (ReviewBook.initial.load threeReviews).upsertAll [] with
          selectedReview := some 1 }.upsertAll
            [plainReview 9 52 40, plainReview 8 51 50, plainReview 9 51 60]).currentReview? 51 100 =
          some now ∧ now.id = 8 := by
  have there : (((ReviewBook.initial.load threeReviews).upsertAll []).reviewsFor 51)[1]? =
      some (plainReview 8 51 30) := by
    decide +kernel
  exact ⟨there, (load_upsertAll_keepsReviews .initial threeReviews []).picked 1 51 _ there _ 100⟩

end ReviewBook

end Coursework
