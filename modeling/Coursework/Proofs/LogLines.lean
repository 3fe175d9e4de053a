import Mathlib.Data.List.Basic
import Coursework.Grading.Result

/-!
# The lines of a build log

A log is a sequence of lines, each with its terminator, and perhaps a last line without one.
`buildLogLines_undo_joining` says that splitting gives back the lines that were joined, whichever
terminators stand between them. Every log is such a joining (`exists_joined`), and so what else is
to be said of the lines of a log is said of joined lines.
-/

namespace Coursework

namespace Text

/-- What ends a line. -/
inductive Terminator where
  | feed
  | returnFeed
  deriving DecidableEq

/-- The characters of a terminator. -/
def Terminator.chars : Terminator → List Char
  | feed => ['\n']
  | returnFeed => ['\r', '\n']

/-- A line with its terminator. A carriage return before a line feed alone would not belong to the
line, and so no such line ends in one. -/
structure EndedLine where
  text : String
  terminator : Terminator
  noFeed : '\n' ∉ text.toList
  noReturn : terminator = .feed → text.toList.getLast? ≠ some '\r'

/-- The characters of a line and of its terminator. -/
def EndedLine.chars (line : EndedLine) : List Char := line.text.toList ++ line.terminator.chars

/-- The lines one after the other, and then a text that has no terminator. -/
def joined (ended : List EndedLine) (last : String) : String :=
  String.ofList (ended.flatMap EndedLine.chars) ++ last

/-- The line that has no terminator; an empty text is none. -/
def lastLine (last : String) : List String := if last = "" then [] else [last]

/-- The characters that belong to no terminator: all but a line feed and a carriage return right
before it. -/
def unterminated : List Char → List Char
  | [] => []
  | '\r' :: '\n' :: rest => unterminated rest
  | '\n' :: rest => unterminated rest
  | c :: rest => c :: unterminated rest

theorem toList_joined (ended : List EndedLine) (last : String) :
    (joined ended last).toList = ended.flatMap EndedLine.chars ++ last.toList := by
  simp [joined]

section Split

variable {cs : List Char}

/-- Characters before the next line feed are taken into the line. -/
theorem linesFrom_append (noFeed : '\n' ∉ cs) (line rest : List Char) :
    linesFrom line (cs ++ rest) = linesFrom (cs.reverse ++ line) rest := by
  induction cs generalizing line with
  | nil => rfl
  | cons c cs ih =>
    obtain ⟨notFeed, noFeed⟩ := List.ne_and_not_mem_of_not_mem_cons noFeed
    rw [List.cons_append, linesFrom.eq_3 _ _ _ notFeed.symm, ih noFeed, List.reverse_cons,
      List.append_assoc, List.singleton_append]

theorem dropReturn_concat (line : List Char) : dropReturn (line ++ ['\r']) = line := by
  simp [dropReturn]

theorem dropReturn_of_getLast? {line : List Char} (noReturn : line.getLast? ≠ some '\r') :
    dropReturn line = line := by
  unfold dropReturn
  split
  case h_1 rest reversed =>
    refine absurd ?_ noReturn
    rw [List.getLast?_eq_head?_reverse, reversed, List.head?_cons]
  case h_2 => rfl

/-- A line with its terminator is cut off. -/
theorem linesFrom_chars (line : EndedLine) (rest : List Char) :
    linesFrom [] (line.chars ++ rest) = line.text.toList :: linesFrom [] rest := by
  obtain ⟨text, terminator, noFeed, noReturn⟩ := line
  cases terminator with
  | feed =>
    rw [EndedLine.chars, List.append_assoc, linesFrom_append noFeed, List.append_nil]
    change dropReturn text.toList.reverse.reverse :: linesFrom [] rest = _
    rw [List.reverse_reverse, dropReturn_of_getLast? (noReturn rfl)]
  | returnFeed =>
    rw [EndedLine.chars, List.append_assoc, linesFrom_append noFeed, List.append_nil]
    change dropReturn ('\r' :: text.toList.reverse).reverse :: linesFrom [] rest = _
    rw [List.reverse_cons, List.reverse_reverse, dropReturn_concat]

theorem linesFrom_last {last : String} (noFeed : '\n' ∉ last.toList) :
    (linesFrom [] last.toList).map String.ofList = lastLine last := by
  have taken := linesFrom_append noFeed [] []
  rw [List.append_nil, List.append_nil] at taken
  rw [taken, linesFrom, lastLine, List.reverse_reverse]
  by_cases empty : last = "" <;> simp [empty]

end Split

/-- Splitting gives back the lines that were joined. -/
theorem lines_joined (ended : List EndedLine) {last : String} (noFeed : '\n' ∉ last.toList) :
    lines (joined ended last) = ended.map EndedLine.text ++ lastLine last := by
  rw [lines, toList_joined]
  induction ended with
  | nil => simp [linesFrom_last noFeed]
  | cons line ended ih => simp [linesFrom_chars, ih]

/-- Every text is a sequence of ended lines and a last one. The character in front either ends an
empty line or belongs to the first line, unless it is a carriage return that becomes part of the
first terminator. -/
theorem exists_joined (s : String) :
    ∃ (ended : List EndedLine) (last : String), '\n' ∉ last.toList ∧ joined ended last = s := by
  suffices ∀ cs : List Char, ∃ (ended : List EndedLine) (last : List Char),
      '\n' ∉ last ∧ ended.flatMap EndedLine.chars ++ last = cs by
    obtain ⟨ended, last, noFeed, written⟩ := this s.toList
    refine ⟨ended, String.ofList last, by simpa using noFeed, String.toList_injective ?_⟩
    simpa [toList_joined] using written
  intro cs
  induction cs with
  | nil => exact ⟨[], [], List.not_mem_nil, rfl⟩
  | cons c cs ih =>
    obtain ⟨ended, last, noFeed, rfl⟩ := ih
    by_cases feed : c = '\n'
    · refine ⟨⟨"", .feed, by simp, by simp⟩ :: ended, last, noFeed, ?_⟩
      simp [EndedLine.chars, Terminator.chars, feed]
    · have notFeed : '\n' ≠ c := Ne.symm feed
      cases ended with
      | nil => exact ⟨[], c :: last, by simp [notFeed, noFeed], rfl⟩
      | cons line ended =>
        obtain ⟨text, terminator, textNoFeed, noReturn⟩ := line
        by_cases joins : terminator = .feed ∧ text = "" ∧ c = '\r'
        · obtain ⟨rfl, rfl, rfl⟩ := joins
          refine ⟨⟨"", .returnFeed, by simp, by simp⟩ :: ended, last, noFeed, ?_⟩
          simp [EndedLine.chars, Terminator.chars]
        · refine ⟨⟨String.ofList (c :: text.toList), terminator, ?_, ?_⟩ :: ended, last, noFeed,
            ?_⟩
          · simp [notFeed, textNoFeed]
          · intro isFeed
            rw [String.toList_ofList]
            rcases List.eq_nil_or_concat text.toList with empty | ⟨front, final, whole⟩
            · have notReturn : c ≠ '\r' := fun same =>
                joins ⟨isFeed, String.toList_eq_nil_iff.mp empty, same⟩
              simpa [empty] using notReturn
            · have kept := noReturn isFeed
              rw [whole] at kept ⊢
              simpa [List.getLast?_cons] using kept
          · simp [EndedLine.chars]

/-! ## What is in the lines -/

/-- A character that begins no terminator is kept. -/
theorem unterminated_cons {c : Char} {rest : List Char} (notFeed : c ≠ '\n')
    (apart : c = '\r' → rest.head? ≠ some '\n') :
    unterminated (c :: rest) = c :: unterminated rest := by
  refine unterminated.eq_4 _ _ (fun after isReturn begins => ?_) notFeed
  exact apart isReturn (by rw [begins, List.head?_cons])

theorem unterminated_append {cs rest : List Char} (noFeed : '\n' ∉ cs)
    (apart : cs.getLast? = some '\r' → rest.head? ≠ some '\n') :
    unterminated (cs ++ rest) = cs ++ unterminated rest := by
  induction cs with
  | nil => rfl
  | cons c cs ih =>
    obtain ⟨notFeed, noFeed⟩ := List.ne_and_not_mem_of_not_mem_cons noFeed
    cases cs with
    | nil =>
      refine unterminated_cons notFeed.symm fun isReturn => apart ?_
      rw [isReturn, List.getLast?_singleton]
    | cons d cs =>
      have next : '\n' ≠ d := (List.ne_and_not_mem_of_not_mem_cons noFeed).1
      have later : (d :: cs).getLast? = some '\r' → rest.head? ≠ some '\n' := by
        rwa [List.getLast?_cons_cons] at apart
      rw [List.cons_append, unterminated_cons notFeed.symm, ih noFeed later]
      · rfl
      · rintro -
        simpa using next.symm

/-- Of a line and its terminator, the line is kept. -/
theorem unterminated_chars (line : EndedLine) (rest : List Char) :
    unterminated (line.chars ++ rest) = line.text.toList ++ unterminated rest := by
  obtain ⟨text, terminator, noFeed, noReturn⟩ := line
  rw [EndedLine.chars, List.append_assoc]
  cases terminator with
  | feed => exact unterminated_append noFeed fun ends => absurd ends (noReturn rfl)
  | returnFeed => exact unterminated_append noFeed fun _ => by simp [Terminator.chars]

theorem unterminated_joined (ended : List EndedLine) {last : String}
    (noFeed : '\n' ∉ last.toList) :
    unterminated (joined ended last).toList =
      (ended.map EndedLine.text ++ lastLine last).flatMap String.toList := by
  rw [toList_joined]
  induction ended with
  | nil =>
    have kept : unterminated (last.toList ++ []) = last.toList ++ unterminated [] :=
      unterminated_append noFeed fun _ => by simp
    rw [List.append_nil, unterminated, List.append_nil] at kept
    by_cases empty : last = ""
    · simp [lastLine, empty, unterminated]
    · simp [lastLine, empty, kept]
  | cons line ended ih => simp [unterminated_chars, ih]

theorem count_feed_joined (ended : List EndedLine) {last : String}
    (noFeed : '\n' ∉ last.toList) :
    (joined ended last).toList.count '\n' = ended.length := by
  rw [toList_joined, List.count_append, List.count_eq_zero.mpr noFeed, Nat.add_zero]
  induction ended with
  | nil => rfl
  | cons line ended ih =>
    have one : line.chars.count '\n' = 1 := by
      rw [EndedLine.chars, List.count_append, List.count_eq_zero.mpr line.noFeed]
      cases line.terminator <;> rfl
    rw [List.flatMap_cons, List.count_append, one, ih, List.length_cons, Nat.add_comm]

/-- There is a last line without terminator exactly if the text is not empty and does not end in a
line feed. -/
theorem last_ne_empty_iff (ended : List EndedLine) {last : String} (noFeed : '\n' ∉ last.toList) :
    last ≠ "" ↔ joined ended last ≠ "" ∧ (joined ended last).toList.getLast? ≠ some '\n' := by
  have empty_iff (s : String) : s = "" ↔ s.toList = [] := String.toList_eq_nil_iff.symm
  rw [ne_eq, ne_eq, empty_iff, empty_iff, toList_joined]
  constructor
  case mp =>
    intro filled
    refine ⟨fun empty => filled (List.append_eq_nil_iff.mp empty).2, fun ends => noFeed ?_⟩
    rw [List.getLast?_append_of_ne_nil _ filled] at ends
    exact List.mem_of_getLast? ends
  case mpr =>
    rintro ⟨filled, ends⟩ empty
    rw [empty, List.append_nil] at filled ends
    obtain rfl | ⟨front, line, rfl⟩ := List.eq_nil_or_concat ended
    · exact filled rfl
    · refine ends ?_
      cases terminator : line.terminator <;>
        simp [EndedLine.chars, Terminator.chars, terminator]

end Text

namespace Grading

open Text

variable {submission : Submission} {info : BuildInfo}

theorem buildLogLines_of_built (built : submission.buildInfo = some info) :
    buildLogLines submission = lines info.buildLog := by
  rw [buildLogLines, built]

/-- The lines of a log are the lines that were joined to it, whether a line feed ends a line or a
carriage return with a line feed, and whether or not the last line is ended. Every log is such a
joining. So no line has a line feed in it, there is a line for each line feed and one more if the
log goes on after the last of them, and all characters are kept but line feeds and the carriage
returns right before them. -/
theorem buildLogLines_undo_joining (built : submission.buildInfo = some info) :
    (∀ (ended : List EndedLine) (last : String), '\n' ∉ last.toList →
      info.buildLog = joined ended last →
      buildLogLines submission = ended.map EndedLine.text ++ lastLine last) ∧
    (∃ (ended : List EndedLine) (last : String), '\n' ∉ last.toList ∧
      info.buildLog = joined ended last) ∧
    (∀ line ∈ buildLogLines submission, '\n' ∉ line.toList) ∧
    (buildLogLines submission).length = info.buildLog.toList.count '\n' +
      (if info.buildLog ≠ "" ∧ info.buildLog.toList.getLast? ≠ some '\n' then 1 else 0) ∧
    (buildLogLines submission).flatMap String.toList = unterminated info.buildLog.toList := by
  rw [buildLogLines_of_built built]
  obtain ⟨ended, last, noFeed, written⟩ := exists_joined info.buildLog
  refine ⟨?joining, ⟨ended, last, noFeed, written.symm⟩, ?_⟩
  case joining =>
    intro ended last noFeed written
    rw [written, lines_joined ended noFeed]
  rw [← written, lines_joined ended noFeed]
  refine ⟨?feeds, ?count, (unterminated_joined ended noFeed).symm⟩
  case feeds =>
    intro line listed
    rcases List.mem_append.mp listed with isEnded | isLast
    · obtain ⟨line, -, rfl⟩ := List.mem_map.mp isEnded
      exact line.noFeed
    · unfold lastLine at isLast
      split at isLast
      · exact absurd isLast List.not_mem_nil
      · rwa [List.mem_singleton.mp isLast]
  case count =>
    rw [count_feed_joined ended noFeed, List.length_append, List.length_map]
    simp only [← last_ne_empty_iff ended noFeed]
    by_cases empty : last = "" <;> simp [lastLine, empty]

/-- A run of the tests that left a log. -/
def loggedRun (log : String) : BuildInfo := ⟨"2024-04-30", 2500, log⟩

/-- A submission whose tests left a log. -/
def loggedWork (log : String) : Submission :=
  { Submission.blank with buildInfo := some (loggedRun log) }

/-- An empty line, a carriage return that stands alone, and one that ends the last line. -/
theorem buildLogLines_undo_joining_of_returns :
    (loggedWork "ok\r\n\na\rb\nPASS\r").buildInfo = some (loggedRun "ok\r\n\na\rb\nPASS\r") ∧
      buildLogLines (loggedWork "ok\r\n\na\rb\nPASS\r") = ["ok", "", "a\rb", "PASS\r"] := by
  have built : (loggedWork "ok\r\n\na\rb\nPASS\r").buildInfo =
      some (loggedRun "ok\r\n\na\rb\nPASS\r") := rfl
  refine ⟨built, ?_⟩
  exact (buildLogLines_undo_joining built).1
    [⟨"ok", .returnFeed, by decide, by decide⟩, ⟨"", .feed, by decide, by decide⟩,
      ⟨"a\rb", .feed, by decide, by decide⟩] "PASS\r" (by decide) (by decide)

end Grading

end Coursework
