import Overseer.Command.Line

/-!
# How a line of words is written

A layout is a line with its structure: words between gaps of white space, and each word
made of bare bytes and quoted runs.  A layout says what it looks like as text and which
words it stands for.

Reading a text finds the words of a layout that looks like it, and it fails only if no
layout does.
-/

namespace Overseer.Command

/-- The bytes that separate words: space, tab, line feed, vertical tab, form feed and
carriage return. -/
def blanks : Bytes :=
  [0x20, 0x09, 0x0a, 0x0b, 0x0c, 0x0d]

/-- The bytes that open a quoted run. -/
def marks : Bytes :=
  [Byte.quote, Byte.doubleQuote]

/-- A part of a word. -/
inductive Segment
  /-- A byte that stands for itself. -/
  | bare (b : UInt8) (visible : b ∉ blanks) (plain : b ∉ marks)
  /-- A run between two quotes of one kind, which may be empty and hold quotes of the
  other kind. -/
  | quoted (mark : UInt8) (content : Bytes) (isMark : mark ∈ marks) (closed : mark ∉ content)

namespace Segment

/-- The segment as it is written. -/
def text : Segment → Bytes
  | bare b _ _ => [b]
  | quoted mark content _ _ => mark :: content ++ [mark]

/-- What the segment adds to its word. -/
def content : Segment → Bytes
  | bare b _ _ => [b]
  | quoted _ content _ _ => content

end Segment

/-- A word as it is written. -/
structure Word where
  /-- Its parts, with nothing between them. -/
  segments : List Segment
  /-- A word has at least one part. -/
  segments_ne_nil : segments ≠ []

/-- The word as it is written. -/
def Word.text (w : Word) : Bytes :=
  w.segments.flatMap Segment.text

/-- The word itself. -/
def Word.content (w : Word) : Bytes :=
  w.segments.flatMap Segment.content

/-- White space, which may be empty. -/
structure Gap where
  /-- Its bytes. -/
  text : Bytes
  /-- All of them separate words. -/
  subset_blanks : text ⊆ blanks

/-- A line as it is written: each word is followed by a gap, and only the first gap of the
line and the last one may be empty. -/
structure Layout where
  /-- The white space in front of the first word. -/
  lead : Gap
  /-- The words, each with the white space after it. -/
  words : List (Word × Gap)
  /-- Words are kept apart. -/
  apart : ∀ entry ∈ words.dropLast, entry.2.text ≠ []

namespace Layout

/-- The text of words and the gaps after them. -/
def body (words : List (Word × Gap)) : Bytes :=
  words.flatMap fun entry => entry.1.text ++ entry.2.text

/-- The line as it is written. -/
def text (l : Layout) : Bytes :=
  l.lead.text ++ body l.words

/-- The words the line stands for. -/
def contents (l : Layout) : List Bytes :=
  l.words.map fun entry => entry.1.content

/-- With one more word in front, words are kept apart if that one is. -/
theorem apart_cons {first : Word × Gap} {words : List (Word × Gap)}
    (apart : ∀ entry ∈ words.dropLast, entry.2.text ≠ [])
    (firstApart : words ≠ [] → first.2.text ≠ []) :
    ∀ entry ∈ (first :: words).dropLast, entry.2.text ≠ [] := by
  intro entry inner
  cases words with
  | nil => contradiction
  | cons second words =>
      rcases List.mem_cons.mp inner with rfl | inner
      · exact firstApart (List.cons_ne_nil second words)
      · exact apart entry inner

end Layout

/-! ## Classes of bytes -/

theorem isBlank_iff {b : UInt8} : Byte.isBlank b = true ↔ b ∈ blanks := by
  simp only [Byte.isBlank, blanks, Byte.space, Byte.tab, Byte.carriageReturn, Bool.or_eq_true,
    Bool.and_eq_true, decide_eq_true_eq, List.mem_cons, List.not_mem_nil, or_false,
    ← UInt8.toNat_inj, UInt8.le_iff_toNat_le]
  simp
  omega

theorem isQuote_iff {b : UInt8} : isQuote b = true ↔ b ∈ marks := by
  simp [isQuote, marks]

theorem notMem_blanks_of_mark {b : UInt8} (isMark : b ∈ marks) : b ∉ blanks := by
  intro blank
  simp only [marks, List.mem_cons, List.not_mem_nil, or_false] at isMark
  rcases isMark with rfl | rfl <;> simp [blanks, Byte.quote, Byte.doubleQuote] at blank

/-! ## Reading what was written -/

namespace Reading

/-- Put bytes in front of the word at the position. -/
def extend (content : Bytes) (reading : Reading) : Reading :=
  { reading with here := some (content ++ reading.here.getD []) }

@[simp]
theorem words_extend_separate (content : Bytes) (reading : Reading) :
    (reading.separate.extend content).words = content :: reading.words := by
  simp [extend, separate, words]

theorem extend_extend (first second : Bytes) (reading : Reading) :
    (reading.extend second).extend first = reading.extend (first ++ second) := by
  simp [extend]

end Reading

section

variable {b : UInt8} {rest : Bytes} {reading : Reading}

theorem readFrom_bare (visible : b ∉ blanks) (plain : b ∉ marks) :
    readFrom .bare (b :: rest) = (readFrom .bare rest).map (Reading.extend [b]) := by
  have unspaced : ¬Byte.isBlank b = true := fun blank => visible (isBlank_iff.mp blank)
  have unquoted : ¬isQuote b = true := fun mark => plain (isQuote_iff.mp mark)
  rw [readFrom, if_neg unspaced, if_neg unquoted]
  rfl

theorem readFrom_mark (isMark : b ∈ marks) :
    readFrom .bare (b :: rest) = (readFrom (.inside b) rest).map (Reading.extend []) := by
  have unspaced : ¬Byte.isBlank b = true :=
    fun blank => notMem_blanks_of_mark isMark (isBlank_iff.mp blank)
  rw [readFrom, if_neg unspaced, if_pos (isQuote_iff.mpr isMark)]
  rfl

/-- Inside quotes everything up to the closing one stands for itself. -/
theorem readFrom_inside {mark : UInt8} {content : Bytes} (closed : mark ∉ content)
    (read : readFrom .bare rest = .ok reading) :
    (readFrom (.inside mark) (content ++ mark :: rest)).map (Reading.extend []) =
      .ok (reading.extend content) := by
  induction content with
  | nil => simp [readFrom, read, Except.map]
  | cons b content inductionHypothesis =>
      simp only [List.mem_cons, not_or] at closed
      have later := inductionHypothesis closed.2
      rw [List.cons_append, readFrom, if_neg (Ne.symm closed.1)]
      cases inner : readFrom (.inside mark) (content ++ mark :: rest) with
      | error fault =>
          rw [inner] at later
          contradiction
      | ok found =>
          rw [inner] at later
          simp only [Except.map, Except.ok.injEq] at later ⊢
          have split := congrArg (Reading.extend [b]) later
          rw [Reading.extend_extend] at split
          exact split

theorem readFrom_segment (segment : Segment) (read : readFrom .bare rest = .ok reading) :
    readFrom .bare (segment.text ++ rest) = .ok (reading.extend segment.content) := by
  cases segment with
  | bare b visible plain =>
      rw [Segment.text, List.singleton_append, readFrom_bare visible plain, read]
      rfl
  | quoted mark content isMark closed =>
      have inner := readFrom_inside closed read
      rw [Segment.text, List.append_assoc, List.cons_append, readFrom_mark isMark]
      exact inner

/-- A word adds its content to what comes after it. -/
theorem readFrom_word (w : Word) (read : readFrom .bare rest = .ok reading) :
    readFrom .bare (w.text ++ rest) = .ok (reading.extend w.content) := by
  rcases w with ⟨segments, nonempty⟩
  simp only [Word.text, Word.content]
  induction segments with
  | nil => contradiction
  | cons first others inductionHypothesis =>
      rw [List.flatMap_cons, List.append_assoc, List.flatMap_cons]
      cases others with
      | nil => simpa using readFrom_segment first read
      | cons second others =>
          have later := inductionHypothesis (List.cons_ne_nil second others)
          rw [readFrom_segment first later, Reading.extend_extend]

/-- White space keeps what comes after it apart. -/
theorem readFrom_gap (gap : Gap) (nonempty : gap.text ≠ [])
    (read : readFrom .bare rest = .ok reading) :
    readFrom .bare (gap.text ++ rest) = .ok reading.separate := by
  rcases gap with ⟨text, blank⟩
  change text ≠ [] at nonempty
  change readFrom .bare (text ++ rest) = _
  induction text with
  | nil => contradiction
  | cons b text inductionHypothesis =>
      have spaced : Byte.isBlank b = true := isBlank_iff.mpr (blank List.mem_cons_self)
      rw [List.cons_append, readFrom_bare_blank spaced]
      cases text with
      | nil => simp [read, Except.map]
      | cons c text =>
          have later := inductionHypothesis (List.subset_of_cons_subset blank)
            (List.cons_ne_nil c text)
          rw [later]
          rfl

/-- White space changes no words. -/
theorem exists_readFrom_gap (gap : Gap) (read : readFrom .bare rest = .ok reading) :
    ∃ found, readFrom .bare (gap.text ++ rest) = .ok found ∧ found.words = reading.words := by
  by_cases empty : gap.text = []
  · exact ⟨reading, by simpa [empty] using read, rfl⟩
  · exact ⟨reading.separate, readFrom_gap gap empty read, rfl⟩

/-- The words of a line are found in it. -/
theorem exists_readFrom_body (words : List (Word × Gap))
    (apart : ∀ entry ∈ words.dropLast, entry.2.text ≠ []) :
    ∃ found, readFrom .bare (Layout.body words) = .ok found ∧
      found.words = words.map fun entry => entry.1.content := by
  induction words with
  | nil => exact ⟨_, rfl, rfl⟩
  | cons entry others inductionHypothesis =>
      rcases entry with ⟨word, gap⟩
      simp only [Layout.body, List.flatMap_cons, List.append_assoc, List.map_cons]
      cases others with
      | nil =>
          have start : readFrom .bare [] = .ok { here := none, later := [] } := rfl
          obtain ⟨found, read, none⟩ := exists_readFrom_gap gap start
          refine ⟨found.extend word.content, readFrom_word word read, ?_⟩
          simp only [Reading.words, Option.toList_none, List.nil_append,
            List.append_eq_nil_iff] at none
          simp [Reading.extend, Reading.words, none.2, Option.toList_eq_nil_iff.mp none.1]
      | cons next others =>
          have kept : ∀ entry ∈ (next :: others).dropLast, entry.2.text ≠ [] :=
            fun entry inner => apart entry (List.mem_cons_of_mem _ inner)
          have nonempty : gap.text ≠ [] := apart (word, gap) List.mem_cons_self
          obtain ⟨found, read, same⟩ := inductionHypothesis kept
          refine ⟨_, readFrom_word word (readFrom_gap gap nonempty read), ?_⟩
          rw [Reading.words_extend_separate, same]

end

/-- A line that is written in some way is read as the words it stands for. -/
theorem split_text (l : Layout) : split l.text = .ok l.contents := by
  obtain ⟨found, read, words⟩ := exists_readFrom_body l.words l.apart
  obtain ⟨whole, readWhole, same⟩ := exists_readFrom_gap l.lead read
  rw [split, Layout.text, readWhole, Layout.contents, ← words, ← same]
  rfl

/-! ## Finding how a line was written -/

/-- How a text may go on behind a position: with the rest of a word, which may be empty, and a
line in which that word is kept apart from the next one. -/
structure Continuation where
  /-- The parts of the word. -/
  segments : List Segment
  /-- The line after it. -/
  line : Layout
  /-- The next word is kept apart. -/
  apart : line.words ≠ [] → line.lead.text ≠ []

namespace Continuation

/-- The text behind the position. -/
def text (c : Continuation) : Bytes :=
  c.segments.flatMap Segment.text ++ c.line.text

/-- What the text adds to a word that reaches up to the position. -/
def content (c : Continuation) : Bytes :=
  c.segments.flatMap Segment.content

/-- The words that are found behind the position. -/
def reading (c : Continuation) : Reading where
  here := if c.segments = [] then none else some c.content
  later := c.line.contents

/-- One more part of the word. -/
def addSegment (segment : Segment) (c : Continuation) : Continuation :=
  { c with segments := segment :: c.segments }

theorem reading_addSegment (segment : Segment) (c : Continuation) :
    (c.addSegment segment).reading = c.reading.extend segment.content := by
  rcases c with ⟨segments, line, apart⟩
  cases segments <;> simp [addSegment, reading, content, Reading.extend]

/-- Nothing. -/
def empty : Continuation where
  segments := []
  line := { lead := ⟨[], List.nil_subset _⟩, words := [], apart := nofun }
  apart := nofun

/-- White space in front: the word begins behind it. -/
theorem exists_blank {b : UInt8} (blank : b ∈ blanks) (c : Continuation) :
    ∃ d : Continuation, d.text = b :: c.text ∧ d.reading = c.reading.separate := by
  rcases c with ⟨segments, ⟨lead, words, kept⟩, apart⟩
  cases segments with
  | nil =>
      refine ⟨{
        segments := []
        line := {
          lead := ⟨b :: lead.text, List.cons_subset.mpr ⟨blank, lead.subset_blanks⟩⟩
          words, apart := kept }
        apart := fun _ => List.cons_ne_nil _ _ }, rfl, rfl⟩
  | cons first others =>
      let word : Word := ⟨first :: others, List.cons_ne_nil first others⟩
      refine ⟨{
        segments := []
        line := {
          lead := ⟨[b], List.cons_subset.mpr ⟨blank, List.nil_subset _⟩⟩
          words := (word, lead) :: words, apart := Layout.apart_cons kept apart }
        apart := fun _ => List.cons_ne_nil _ _ }, ?_, ?_⟩
      · simp [text, Layout.text, Layout.body, word, Word.text]
      · simp [reading, content, Reading.separate, Reading.words, Layout.contents, word,
          Word.content]

end Continuation

/-- What was found in a text shows how the text may have been written; inside quotes, it begins
with the rest of a quoted run. -/
theorem exists_continuation (text : Bytes) :
    (∀ reading, readFrom .bare text = .ok reading →
      ∃ c : Continuation, c.text = text ∧ c.reading = reading) ∧
    ∀ mark reading, readFrom (.inside mark) text = .ok reading →
      ∃ (content : Bytes) (c : Continuation), mark ∉ content ∧ content ++ mark :: c.text = text ∧
        c.reading.extend content = reading.extend [] := by
  induction text with
  | nil =>
      constructor
      · intro reading read
        cases read
        exact ⟨.empty, rfl, rfl⟩
      · intro mark reading read
        contradiction
  | cons b text inductionHypothesis =>
      obtain ⟨outside, inside⟩ := inductionHypothesis
      constructor
      · intro reading read
        by_cases blank : b ∈ blanks
        · rw [readFrom_bare_blank (isBlank_iff.mpr blank)] at read
          cases later : readFrom .bare text with
          | error fault => simp [later, Except.map] at read
          | ok found =>
              obtain ⟨c, rfl, rfl⟩ := outside found later
              obtain ⟨d, sameText, sameReading⟩ := c.exists_blank blank
              rw [later] at read
              cases read
              exact ⟨d, sameText, sameReading⟩
        · by_cases isMark : b ∈ marks
          · rw [readFrom_mark isMark] at read
            cases later : readFrom (.inside b) text with
            | error fault => simp [later, Except.map] at read
            | ok found =>
                obtain ⟨content, c, closed, rfl, sameReading⟩ := inside b found later
                rw [later] at read
                cases read
                refine ⟨c.addSegment (.quoted b content isMark closed), ?_, ?_⟩
                · simp [Continuation.text, Continuation.addSegment, Segment.text]
                · rw [Continuation.reading_addSegment]
                  exact sameReading
          · rw [readFrom_bare blank isMark] at read
            cases later : readFrom .bare text with
            | error fault => simp [later, Except.map] at read
            | ok found =>
                obtain ⟨c, rfl, rfl⟩ := outside found later
                rw [later] at read
                cases read
                exact ⟨c.addSegment (.bare b blank isMark), rfl,
                  c.reading_addSegment (.bare b blank isMark)⟩
      · intro mark reading read
        by_cases closes : b = mark
        · rw [readFrom, if_pos closes] at read
          obtain ⟨c, rfl, rfl⟩ := outside reading read
          exact ⟨[], c, List.not_mem_nil, by rw [closes]; rfl, rfl⟩
        · rw [readFrom, if_neg closes] at read
          cases later : readFrom (.inside mark) text with
          | error fault => simp [later, Except.map] at read
          | ok found =>
              obtain ⟨content, c, closed, rfl, sameReading⟩ := inside mark found later
              rw [later] at read
              cases read
              refine ⟨b :: content, c, ?_, rfl, ?_⟩
              · simp only [List.mem_cons, not_or]
                exact ⟨Ne.symm closes, closed⟩
              · have extended := congrArg (Reading.extend [b]) sameReading
                rw [Reading.extend_extend, Reading.extend_extend] at extended
                exact extended

/-- The words that were found in a line are those of a layout that looks like it. -/
theorem exists_layout {line : Bytes} {found : List Bytes} (read : split line = .ok found) :
    ∃ l : Layout, l.text = line ∧ l.contents = found := by
  unfold split at read
  cases whole : readFrom .bare line with
  | error fault => simp [whole, Except.map] at read
  | ok reading =>
      rw [whole] at read
      cases read
      obtain ⟨c, rfl, rfl⟩ := (exists_continuation line).1 reading whole
      rcases c with ⟨segments, line, apart⟩
      cases segments with
      | nil => exact ⟨line, rfl, rfl⟩
      | cons first others =>
          let word : Word := ⟨first :: others, List.cons_ne_nil first others⟩
          refine ⟨{
            lead := ⟨[], List.nil_subset _⟩
            words := (word, line.lead) :: line.words
            apart := Layout.apart_cons line.apart apart }, ?_, ?_⟩
          · simp [Layout.text, Layout.body, Continuation.text, word, Word.text]
          · simp [Layout.contents, Continuation.reading, Continuation.content, Reading.words, word,
              Word.content]

/-! ## Lines that are written in no way -/

/-- The only thing that can go wrong is that a quote is not closed. -/
theorem readFrom_eq_error {mode : Mode} {text : Bytes} {fault : Fault}
    (failed : readFrom mode text = .error fault) : fault = .unterminatedQuote := by
  induction text generalizing mode fault with
  | nil =>
      cases mode with
      | bare => contradiction
      | inside mark => exact (Except.error.inj failed).symm
  | cons b text inductionHypothesis =>
      have later : ∀ {mode : Mode} {change : Reading → Reading},
          (readFrom mode text).map change = .error fault → fault = .unterminatedQuote := by
        intro mode change failed
        cases inner : readFrom mode text with
        | ok reading => simp [inner, Except.map] at failed
        | error cause =>
            rw [inner] at failed
            cases failed
            exact inductionHypothesis inner
      cases mode with
      | bare =>
          rw [readFrom] at failed
          split at failed
          · exact later failed
          · split at failed
            · exact later failed
            · exact later failed
      | inside mark =>
          rw [readFrom] at failed
          split at failed
          · exact inductionHypothesis failed
          · exact later failed

theorem split_eq_ok_iff {line : Bytes} {found : List Bytes} :
    split line = .ok found ↔ ∃ l : Layout, l.text = line ∧ l.contents = found := by
  constructor
  · exact exists_layout
  · rintro ⟨l, rfl, rfl⟩
    exact split_text l

theorem split_eq_error_iff {line : Bytes} {fault : Fault} :
    split line = .error fault ↔ fault = .unterminatedQuote ∧ ∀ l : Layout, l.text ≠ line := by
  constructor
  · intro failed
    constructor
    · unfold split at failed
      cases read : readFrom .bare line with
      | ok reading => simp [read, Except.map] at failed
      | error cause =>
          rw [read] at failed
          cases failed
          exact readFrom_eq_error read
    · rintro l rfl
      rw [split_text l] at failed
      contradiction
  · rintro ⟨rfl, unwritten⟩
    cases read : split line with
    | ok found =>
        obtain ⟨l, same, _⟩ := exists_layout read
        exact absurd same (unwritten l)
    | error cause =>
        unfold split at read
        cases inner : readFrom .bare line with
        | ok reading => simp [inner, Except.map] at read
        | error earlier =>
            rw [inner] at read
            cases read
            rw [readFrom_eq_error inner]

end Overseer.Command

namespace Overseer.CommandLine

open Command

theorem parse_eq_ok_iff {line : Bytes} {command : CommandLine} :
    parse line = .ok command ↔
      split line = .ok (command.program :: command.arguments) ∧ command.bindings = .empty := by
  rcases command with ⟨program, arguments, bindings, nonempty⟩
  unfold parse ofProgram
  split
  · next fault failed => simp [failed]
  · next none => simp [none]
  · next first others found =>
      rw [found]
      by_cases empty : first = []
      · simp only [empty, dite_true, Except.map, reduceCtorEq, Except.ok.injEq, List.cons.injEq,
          false_iff]
        rintro ⟨⟨same, _⟩, _⟩
        exact nonempty same.symm
      · simp only [empty, dite_false, Except.map, Except.ok.injEq, CommandLine.mk.injEq,
          List.cons.injEq, and_assoc, eq_comm (a := NameMap.empty)]

theorem parse_eq_error_iff {line : Bytes} {fault : Fault} :
    parse line = .error fault ↔
      (fault = .emptyCommandLine ∧ split line = .ok []) ∨
      (fault = .emptyExecutable ∧ ∃ arguments, split line = .ok ([] :: arguments)) ∨
      split line = .error fault := by
  unfold parse ofProgram
  split
  · next cause failed => simp [failed]
  · next none => simp [none, eq_comm]
  · next first others found =>
      rw [found]
      by_cases empty : first = []
      · simp [empty, Except.map, eq_comm]
      · simp [empty, Except.map]

/-- Without bindings the words of a command line are the program and its arguments. -/
theorem words_of_unbound {command : CommandLine} (unbound : command.bindings = .empty) :
    command.words = command.program :: command.arguments := by
  have same : expand .empty = id := funext expand_empty
  simp [words, expandedProgram, expandedArguments, unbound, same]

/-- Which lines can be read, and what they are read as.

* Splitting a line finds some words if, and only if, the line can be written as these words
  in the way that layouts are: between gaps of white space, of which only the first and the
  last may be empty, each word as one bare byte or quoted run after the other.
* It fails if, and only if, the line can be written in no such way, and then because of a
  quote that is not closed.
* Reading the line gives a command line if, and only if, it can be written as at least one
  word of which the first is not empty: the first one is the program and the others are the
  arguments in order, as they are.  A line of no words, a line whose first word is empty and
  a line that can be written in no way are told apart by the fault. -/
theorem reads_exactly (line : Bytes) :
    (∀ words, split line = .ok words ↔ ∃ l : Layout, l.text = line ∧ l.contents = words) ∧
    (∀ fault, split line = .error fault ↔
      fault = .runtime (utf8 "unterminated quote") ∧ ∀ l : Layout, l.text ≠ line) ∧
    (∀ command, parse line = .ok command ↔
      ∃ l : Layout, l.text = line ∧ l.contents = command.program :: command.arguments ∧
        command.bindings = .empty ∧ command.words = l.contents) ∧
    ((∃ command, parse line = .ok command) ↔
      ∃ (l : Layout) (program : Bytes) (arguments : List Bytes),
        l.text = line ∧ l.contents = program :: arguments ∧ program ≠ []) ∧
    ∀ fault, parse line = .error fault ↔
      (fault = .invalidArgument (utf8 "command line can not be empty") ∧
        ∃ l : Layout, l.text = line ∧ l.contents = []) ∨
      (fault = .invalidArgument (utf8 "executable can not be empty") ∧
        ∃ (l : Layout) (arguments : List Bytes), l.text = line ∧ l.contents = [] :: arguments) ∨
      (fault = .runtime (utf8 "unterminated quote") ∧ ∀ l : Layout, l.text ≠ line) := by
  refine ⟨fun words => split_eq_ok_iff, fun fault => split_eq_error_iff, ?_, ?_, ?_⟩
  · intro command
    rw [parse_eq_ok_iff, split_eq_ok_iff]
    constructor
    · rintro ⟨⟨l, written, contents⟩, unbound⟩
      exact ⟨l, written, contents, unbound, (words_of_unbound unbound).trans contents.symm⟩
    · rintro ⟨l, written, contents, unbound, _⟩
      exact ⟨⟨l, written, contents⟩, unbound⟩
  · constructor
    · rintro ⟨command, read⟩
      obtain ⟨l, written, contents⟩ := split_eq_ok_iff.mp (parse_eq_ok_iff.mp read).1
      exact ⟨l, _, _, written, contents, command.program_ne_nil⟩
    · rintro ⟨l, program, arguments, written, contents, nonempty⟩
      refine ⟨{ program, arguments, bindings := .empty, program_ne_nil := nonempty }, ?_⟩
      exact parse_eq_ok_iff.mpr ⟨split_eq_ok_iff.mpr ⟨l, written, contents⟩, rfl⟩
  · intro fault
    rw [parse_eq_error_iff, split_eq_error_iff, split_eq_ok_iff]
    simp only [split_eq_ok_iff]
    constructor
    · rintro (⟨same, none⟩ | ⟨same, arguments, l, written, contents⟩ | unwritten)
      · exact .inl ⟨same, none⟩
      · exact .inr (.inl ⟨same, l, arguments, written, contents⟩)
      · exact .inr (.inr unwritten)
    · rintro (⟨same, none⟩ | ⟨same, l, arguments, written, contents⟩ | unwritten)
      · exact .inl ⟨same, none⟩
      · exact .inr (.inl ⟨same, arguments, l, written, contents⟩)
      · exact .inr (.inr unwritten)

end Overseer.CommandLine
