import Coursework.Proofs.BackendAddresses
import Coursework.Server.Settings

/-!
# The kept address of the backend

The address of the backend loses the blanks around it, and then the slashes at its end. Each is
done once, so a blank before the slashes comes to stand at the end and is kept.

`backendUrl_normal_iff` says that there is no other way in which a kept address can miss its normal
form, which is the form that is kept as it is.
-/

namespace Coursework.Server

/-- The address and slashes at its end are what stands between blanks in the value. -/
structure KeptAs (value url : String) : Prop where
  trimmed : ∃ n, Text.TrimsTo value (url ++ slashes n)
  ends : url.toList.getLast? ≠ some '/'

theorem normalBackendUrl_eq_iff {value url : String} :
    Settings.normalBackendUrl value = url ↔ KeptAs value url := by
  rw [Settings.normalBackendUrl, dropEndWhile_slash_eq_iff]
  constructor
  · rintro ⟨⟨n, trimmed⟩, ends⟩
    exact ⟨⟨n, Text.trim_eq_iff.mp trimmed⟩, ends⟩
  · rintro ⟨⟨n, trimmed⟩, ends⟩
    exact ⟨⟨n, Text.trim_eq_iff.mpr trimmed⟩, ends⟩

/-- An address with nothing to drop from it. -/
structure IsNormalUrl (url : String) : Prop where
  filled : url ≠ ""
  noSlash : url.toList.getLast? ≠ some '/'
  begins : ∀ c ∈ url.toList.head?, Text.isBlank c = false
  ends : ∀ c ∈ url.toList.getLast?, Text.isBlank c = false

/-- The normal form is the form that is kept as it is. -/
theorem normalBackendUrl_eq_self_iff {url : String} (filled : url ≠ "") :
    Settings.normalBackendUrl url = url ↔ IsNormalUrl url := by
  rw [normalBackendUrl_eq_iff]
  have whole : url ++ slashes 0 = url := String.append_empty
  constructor
  · rintro ⟨⟨n, ⟨before, after, split, -, -⟩, begins, ends⟩, noSlash⟩
    -- Nothing stands around the address, since the value is no longer than the address.
    have lengths := congrArg List.length split
    rw [String.toList_append, toList_slashes] at lengths
    simp only [List.length_append, List.length_replicate] at lengths
    obtain rfl : n = 0 := by omega
    rw [whole] at begins ends
    exact ⟨filled, noSlash, begins, ends⟩
  · intro normal
    refine ⟨⟨0, ?_⟩, normal.noSlash⟩
    rw [whole]
    exact ⟨⟨[], [], by simp, by simp, by simp⟩, normal.begins, normal.ends⟩

/-- A blank stands before the slashes at the end of the value. -/
def BlankBeforeSlashes (value : String) : Prop :=
  ∃ front blank n after, value.toList = front ++ blank :: ((slashes (n + 1)).toList ++ after) ∧
    Text.isBlank blank = true ∧ ∀ c ∈ after, Text.isBlank c = true

/-- A slash is no blank. -/
theorem isBlank_of_mem_slashes {n : Nat} {c : Char} (member : c ∈ (slashes n).toList) :
    Text.isBlank c = false := by
  rw [toList_slashes] at member
  rw [List.eq_of_mem_replicate member]
  decide

namespace KeptAs

variable {value url other : String}

theorem unique (kept : KeptAs value url) (alsoKept : KeptAs value other) : url = other :=
  (normalBackendUrl_eq_iff.mpr kept).symm.trans (normalBackendUrl_eq_iff.mpr alsoKept)

/-- Blanks in front are not kept. -/
theorem begins (kept : KeptAs value url) (filled : url ≠ "") :
    ∀ c ∈ url.toList.head?, Text.isBlank c = false := by
  obtain ⟨⟨n, trimmed⟩, -⟩ := kept
  have first := trimmed.begins
  rwa [String.toList_append,
    List.head?_append_of_ne_nil _ (mt String.toList_eq_nil_iff.mp filled)] at first

/-- What stands between blanks with a slash at its end is kept without its slashes. -/
theorem of_slashes (before : List Char) {after : List Char} {n : Nat}
    (split : value.toList = before ++ (url.toList ++ ((slashes (n + 1)).toList ++ after)))
    (blankBefore : ∀ c ∈ before, Text.isBlank c = true)
    (blankAfter : ∀ c ∈ after, Text.isBlank c = true)
    (begins : ∀ c ∈ url.toList.head?, Text.isBlank c = false)
    (ends : url.toList.getLast? ≠ some '/') : KeptAs value url := by
  have filled : (slashes (n + 1)).toList ≠ [] := by simp [toList_slashes]
  refine ⟨⟨n + 1, ⟨before, after, ?_, blankBefore, blankAfter⟩, ?_, ?_⟩, ends⟩
  · rw [String.toList_append, List.append_assoc]
    exact split
  · intro c first
    rw [String.toList_append, List.head?_append] at first
    rcases Option.or_eq_some_iff.mp first with ofUrl | ⟨-, ofSlashes⟩
    · exact begins c ofUrl
    · exact isBlank_of_mem_slashes (List.mem_of_head? ofSlashes)
  · intro c last
    rw [String.toList_append, List.getLast?_append_of_ne_nil _ filled] at last
    exact isBlank_of_mem_slashes (List.mem_of_getLast? last)

/-- A blank that stands before slashes is kept with what is before it, unless there are only
blanks before it. -/
theorem of_blankBeforeSlashes (stands : BlankBeforeSlashes value) :
    KeptAs value "" ∨ ∃ front blank, Text.isBlank blank = true ∧
      KeptAs value (String.ofList (front ++ [blank])) := by
  obtain ⟨front, blank, n, after, split, isBlank, blankAfter⟩ := stands
  -- If there are only blanks before it, the blank is one of those around the slashes.
  by_cases blankFront : front.dropWhile Text.isBlank = []
  · left
    refine of_slashes (front ++ [blank]) (n := n) (by simp [split]) ?_ blankAfter (by simp)
      (by simp)
    intro c member
    rcases List.mem_append.mp member with inFront | isLast
    · exact List.dropWhile_eq_nil_iff.mp blankFront c inFront
    · rwa [List.mem_singleton.mp isLast]
  · right
    refine ⟨front.dropWhile Text.isBlank, blank, isBlank, ?_⟩
    refine of_slashes (front.takeWhile Text.isBlank) (n := n) ?_
      (fun c member => List.mem_takeWhile_imp member) blankAfter ?_ ?_
    · rw [String.toList_ofList, List.append_assoc, ← List.append_assoc,
        List.takeWhile_append_dropWhile]
      exact split
    · rw [String.toList_ofList, List.head?_append_of_ne_nil _ blankFront]
      exact Text.dropWhile_eq_self_iff_head?.mp (List.dropWhile_idempotent _ _)
    · rw [String.toList_ofList, List.getLast?_concat]
      intro same
      rw [Option.some.inj same] at isBlank
      exact absurd isBlank (by decide)

/-- The address ends with a blank exactly if that stands before slashes in the value. -/
theorem ends_iff (kept : KeptAs value url) (filled : url ≠ "") :
    (∀ c ∈ url.toList.getLast?, Text.isBlank c = false) ↔ ¬ BlankBeforeSlashes value := by
  constructor
  · intro ends stands
    rcases of_blankBeforeSlashes stands with empty | ⟨front, blank, isBlank, withBlank⟩
    · exact filled (kept.unique empty)
    · rw [kept.unique withBlank, String.toList_ofList, List.getLast?_concat] at ends
      rw [ends blank rfl] at isBlank
      cases isBlank
  · intro apart c last
    by_contra isBlank
    obtain ⟨front, text⟩ := List.getLast?_eq_some_iff.mp (Option.mem_def.mp last)
    obtain ⟨⟨n, ⟨before, after, split, -, blankAfter⟩, -, ends⟩, -⟩ := kept
    cases n with
    | zero =>
      have whole : url ++ slashes 0 = url := String.append_empty
      rw [whole] at ends
      exact isBlank (ends c last)
    | succ n =>
      refine apart ⟨before ++ front, c, n, after, ?_, eq_true_of_ne_false isBlank, blankAfter⟩
      rw [split, String.toList_append, text]
      simp

end KeptAs

/-- A value is accepted if something is kept of it. -/
theorem backend_eq_ok_iff_keptAs {given : Option String} {url : String} :
    Settings.backend given = .ok url ↔
      ∃ value, given = some value ∧ KeptAs value url ∧ url ≠ "" := by
  rw [Settings.backend_eq_ok_iff, Option.map_eq_some_iff]
  constructor
  · rintro ⟨⟨value, same, normal⟩, filled⟩
    exact ⟨value, same, normalBackendUrl_eq_iff.mp normal, filled⟩
  · rintro ⟨value, same, kept, filled⟩
    exact ⟨⟨value, same, normalBackendUrl_eq_iff.mpr kept⟩, filled⟩

/-- The address that is kept can be given in the place of the value, with the same settings,
exactly if it is in normal form. -/
theorem ofEnvironment_kept_iff {environment : Environment} {settings : Settings}
    (accepted : Settings.ofEnvironment environment = .ok settings)
    (filled : settings.backendUrl ≠ "") :
    Settings.ofEnvironment { environment with backendUrl := some settings.backendUrl } =
      .ok settings ↔ IsNormalUrl settings.backendUrl := by
  rw [← normalBackendUrl_eq_self_iff filled]
  constructor
  · intro again
    obtain ⟨_, _, _, backend, -, -, same⟩ := Settings.ofEnvironment_eq_ok_iff.mp again
    obtain ⟨normal, -⟩ := Settings.backend_eq_ok_iff.mp backend
    exact (Option.some.inj normal).trans (congrArg Settings.backendUrl same).symm
  · intro normal
    obtain ⟨_, port, proxyTimeout, -, portRead, timeoutRead, same⟩ :=
      Settings.ofEnvironment_eq_ok_iff.mp accepted
    have backend : Settings.backend (some settings.backendUrl) = .ok settings.backendUrl :=
      Settings.backend_eq_ok_iff.mpr ⟨congrArg some normal, filled⟩
    refine Settings.ofEnvironment_eq_ok_iff.mpr
      ⟨settings.backendUrl, port, proxyTimeout, backend, portRead, timeoutRead, ?_⟩
    rw [congrArg Settings.backendUrl same]
    exact same

/-- An accepted address is never empty, and neither ends in a slash nor begins with a blank. It is
in normal form, and so kept as it is when it is given again, exactly if no blank stood before the
slashes at the end of the value. -/
theorem backendUrl_normal_iff {environment : Environment} {value : String} {settings : Settings}
    (given : environment.backendUrl = some value)
    (accepted : Settings.ofEnvironment environment = .ok settings) :
    (settings.backendUrl ≠ "" ∧ settings.backendUrl.toList.getLast? ≠ some '/' ∧
      ∀ c ∈ settings.backendUrl.toList.head?, Text.isBlank c = false) ∧
    (IsNormalUrl settings.backendUrl ↔ ¬ BlankBeforeSlashes value) ∧
    (Settings.ofEnvironment { environment with backendUrl := some settings.backendUrl } =
      .ok settings ↔ ¬ BlankBeforeSlashes value) := by
  obtain ⟨url, _, _, backend, -, -, sameSettings⟩ := Settings.ofEnvironment_eq_ok_iff.mp accepted
  obtain ⟨_, sameValue, kept, filled⟩ := backend_eq_ok_iff_keptAs.mp backend
  obtain rfl := Option.some.inj (given.symm.trans sameValue)
  obtain rfl : settings.backendUrl = url := congrArg Settings.backendUrl sameSettings
  have normal_iff : IsNormalUrl settings.backendUrl ↔ ¬ BlankBeforeSlashes value := by
    rw [← kept.ends_iff filled]
    exact ⟨fun normal => normal.ends, fun ends => ⟨filled, kept.ends, kept.begins filled, ends⟩⟩
  exact ⟨⟨filled, kept.ends, kept.begins filled⟩, normal_iff,
    (ofEnvironment_kept_iff accepted filled).trans normal_iff⟩

/-- Blanks around an address and slashes at its end, with no blank before them. -/
def paddedEnvironment : Environment where
  backendUrl := some " http://backend:8080// \t"
  port := none
  proxyTimeout := none

theorem backendUrl_normal_iff_of_padded :
    paddedEnvironment.backendUrl = some " http://backend:8080// \t" ∧
      Settings.ofEnvironment paddedEnvironment = .ok ⟨3000, "http://backend:8080", 30⟩ ∧
      IsNormalUrl "http://backend:8080" ∧ ¬ BlankBeforeSlashes " http://backend:8080// \t" := by
  have accepted : Settings.ofEnvironment paddedEnvironment =
      .ok ⟨3000, "http://backend:8080", 30⟩ := by decide +kernel
  obtain ⟨-, normal_iff, again_iff⟩ := backendUrl_normal_iff rfl accepted
  have apart := again_iff.mp (by decide +kernel)
  exact ⟨rfl, accepted, normal_iff.mpr apart, apart⟩

/-- A blank before the slash is kept, and is lost only when the address is given again. -/
theorem not_normal_of_blank_before_slash :
    Settings.ofEnvironment ⟨some "http://backend /", none, none⟩ =
        .ok ⟨3000, "http://backend ", 30⟩ ∧
      ¬ IsNormalUrl "http://backend " ∧
      Settings.ofEnvironment ⟨some "http://backend ", none, none⟩ =
        .ok ⟨3000, "http://backend", 30⟩ := by
  refine ⟨by decide +kernel, fun normal => ?_, by decide +kernel⟩
  exact absurd (normal.ends ' ' (by decide)) (by decide)

end Coursework.Server
