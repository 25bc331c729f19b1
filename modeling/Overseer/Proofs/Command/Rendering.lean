import Overseer.Proofs.Command.Layout

/-!
# Reading a command line that was rendered

Rendering writes a word between single quotes or as it is, and puts one space between
neighbours.  As long as the words have no bytes that rendering takes no account of, what is
written is a layout of these words, whatever else is in them: the reader, which goes by rules of
its own, finds the same words again.
-/

namespace Overseer.CommandLine

open Command

/-- The bytes rendering takes no account of: the single quote, which would close a quoted word,
and the white space other than space and tab, for which no word is quoted. -/
def unguarded : Bytes :=
  [Byte.quote, 0x0a, 0x0b, 0x0c, 0x0d]

/-! ## How a rendered word is written -/

/-- Bytes that stand for themselves are written one by one. -/
theorem exists_segments {word : Bytes} (visible : ∀ b ∈ word, b ∉ blanks)
    (unquoted : ∀ b ∈ word, b ∉ marks) :
    ∃ segments : List Segment,
      segments.flatMap Segment.text = word ∧ segments.flatMap Segment.content = word := by
  induction word with
  | nil => exact ⟨[], rfl, rfl⟩
  | cons b word inductionHypothesis =>
      obtain ⟨visibleByte, visibleRest⟩ := List.forall_mem_cons.mp visible
      obtain ⟨unquotedByte, unquotedRest⟩ := List.forall_mem_cons.mp unquoted
      obtain ⟨segments, text, content⟩ := inductionHypothesis visibleRest unquotedRest
      exact ⟨.bare b visibleByte unquotedByte :: segments, congrArg (b :: ·) text,
        congrArg (b :: ·) content⟩

/-- A word that needs no quotes holds neither white space nor a quote. -/
theorem plain_of_not_needsQuotes {word : Bytes} (guarded : ∀ b ∈ word, b ∉ unguarded)
    (bare : needsQuotes word = false) :
    word ≠ [] ∧ (∀ b ∈ word, b ∉ blanks) ∧ ∀ b ∈ word, b ∉ marks := by
  simp only [needsQuotes, Bool.or_eq_false_iff, List.isEmpty_eq_false_iff, List.any_eq_false,
    Bool.or_eq_true, decide_eq_true_eq, not_or] at bare
  obtain ⟨nonempty, unlike⟩ := bare
  refine ⟨nonempty, ?_, ?_⟩
  · intro b member blank
    obtain ⟨⟨notSpace, notTab⟩, _⟩ := unlike b member
    have other := List.mem_of_ne_of_mem notTab (List.mem_of_ne_of_mem notSpace blank)
    exact guarded b member (List.mem_cons_of_mem _ other)
  · intro b member mark
    apply guarded b member
    simp only [marks, List.mem_cons] at mark
    rcases mark with rfl | rfl | none
    · exact List.mem_cons_self
    · exact absurd rfl (unlike _ member).2
    · contradiction

/-- A rendered word is a way to write the word. -/
theorem exists_word {word : Bytes} (guarded : ∀ b ∈ word, b ∉ unguarded) :
    ∃ w : Word, w.text = renderWord word ∧ w.content = word := by
  unfold renderWord
  by_cases quotes : needsQuotes word = true
  · have closed : Byte.quote ∉ word := fun member => guarded _ member List.mem_cons_self
    have isMark : Byte.quote ∈ marks := List.mem_cons_self
    let w : Word := ⟨[.quoted Byte.quote word isMark closed], List.cons_ne_nil _ []⟩
    have text : w.text = Byte.quote :: word ++ [Byte.quote] := by
      simp [w, Word.text, Segment.text]
    have content : w.content = word := by
      simp [w, Word.content, Segment.content]
    rw [if_pos quotes]
    exact ⟨w, text, content⟩
  · obtain ⟨nonempty, visible, unquoted⟩ :=
      plain_of_not_needsQuotes guarded (Bool.eq_false_iff.mpr quotes)
    obtain ⟨segments, text, content⟩ := exists_segments visible unquoted
    have some : segments ≠ [] := by
      rintro rfl
      exact nonempty text.symm
    rw [if_neg quotes]
    exact ⟨⟨segments, some⟩, text, content⟩

/-! ## How a rendered line is written -/

theorem renderWord_ne_nil (word : Bytes) : renderWord word ≠ [] := by
  unfold renderWord
  split
  · exact List.cons_ne_nil _ _
  · next bare =>
      rintro rfl
      exact bare rfl

/-- There is text in front of every word but the first one. -/
theorem foldl_appendWord {text : Bytes} (begun : text ≠ []) (words : List Bytes) :
    words.foldl appendWord text =
      text ++ words.flatMap fun word => Byte.space :: renderWord word := by
  induction words generalizing text with
  | nil => simp
  | cons word words inductionHypothesis =>
      have one : appendWord text word = text ++ Byte.space :: renderWord word := by
        simp [appendWord, begun]
      have later : appendWord text word ≠ [] := by
        rw [one]
        exact List.append_ne_nil_of_left_ne_nil begun _
      rw [List.foldl_cons, inductionHypothesis later, one, List.flatMap_cons, List.append_assoc]

theorem render_eq (line : CommandLine) :
    line.render = renderWord line.expandedProgram ++
      line.expandedArguments.flatMap fun word => Byte.space :: renderWord word := by
  rw [render, words, List.foldl_cons]
  exact foldl_appendWord (renderWord_ne_nil _) _

/-- A word and the rendered words behind it make up a line of these words. -/
theorem exists_body (first : Word) {words : List Bytes}
    (guarded : ∀ word ∈ words, ∀ b ∈ word, b ∉ unguarded) :
    ∃ entries : List (Word × Gap),
      Layout.body entries =
        first.text ++ words.flatMap (fun word => Byte.space :: renderWord word) ∧
      (entries.map fun entry => entry.1.content) = first.content :: words ∧
      ∀ entry ∈ entries.dropLast, entry.2.text ≠ [] := by
  induction words generalizing first with
  | nil => exact ⟨[(first, ⟨[], List.nil_subset _⟩)], by simp [Layout.body], rfl, nofun⟩
  | cons word words inductionHypothesis =>
      obtain ⟨guardedWord, guardedRest⟩ := List.forall_mem_cons.mp guarded
      obtain ⟨second, text, content⟩ := exists_word guardedWord
      obtain ⟨entries, body, contents, apart⟩ := inductionHypothesis second guardedRest
      let gap : Gap := ⟨[Byte.space], by simp [blanks, Byte.space]⟩
      have line : Layout.body ((first, gap) :: entries) = first.text ++ Byte.space ::
          (renderWord word ++ words.flatMap fun word => Byte.space :: renderWord word) := by
        change first.text ++ [Byte.space] ++ Layout.body entries = _
        rw [body, text, List.append_assoc]
        rfl
      have kept : ∀ entry ∈ ((first, gap) :: entries).dropLast, entry.2.text ≠ [] :=
        Layout.apart_cons apart fun _ => List.cons_ne_nil Byte.space []
      exact ⟨(first, gap) :: entries, line, by rw [List.map_cons, contents, content], kept⟩

/-- The text of a command line whose words are guarded is laid out as these words. -/
theorem exists_layout_render {line : CommandLine}
    (guarded : ∀ word ∈ line.words, ∀ b ∈ word, b ∉ unguarded) :
    ∃ l : Layout, l.text = line.render ∧ l.contents = line.words := by
  obtain ⟨guardedProgram, guardedArguments⟩ := List.forall_mem_cons.mp guarded
  obtain ⟨first, text, content⟩ := exists_word guardedProgram
  obtain ⟨entries, body, contents, apart⟩ := exists_body first guardedArguments
  rw [content] at contents
  rw [render_eq, ← text, ← body]
  exact ⟨⟨⟨[], List.nil_subset _⟩, entries, apart⟩, rfl, contents⟩

/-- The words of a rendered line are those that were rendered. -/
theorem split_render {line : CommandLine}
    (guarded : ∀ word ∈ line.words, ∀ b ∈ word, b ∉ unguarded) :
    split line.render = .ok line.words := by
  obtain ⟨l, text, contents⟩ := exists_layout_render guarded
  rw [← text, ← contents]
  exact split_text l

/-- Reading what was rendered gives the words that were rendered.

* The program may not be empty once its placeholders are expanded.
* No word may hold a single quote, a line feed, a vertical tab, a form feed or a carriage return.
  Anything else may be in a word, and a word after the first one may be empty.
* The words are read as they were after expansion: placeholders that are left in them stay. -/
theorem parse_render (line : CommandLine) (started : line.expandedProgram ≠ [])
    (guarded : ∀ word ∈ line.words, ∀ b ∈ word, b ∉ unguarded) :
    ∃ parsed, parse line.render = .ok parsed ∧ parsed.words = line.words := by
  let parsed : CommandLine := {
    program := line.expandedProgram
    arguments := line.expandedArguments
    bindings := .empty
    program_ne_nil := started }
  have read : parse line.render = .ok parsed := parse_eq_ok_iff.mpr ⟨split_render guarded, rfl⟩
  exact ⟨parsed, read, words_of_unbound rfl⟩

/-- The name of the program comes from a placeholder and has a space in it.  The arguments are an
empty one, one with a tab, one with double quotes, a placeholder that is not bound and one whose
value is a placeholder. -/
def assorted : CommandLine where
  program := utf8 "$\x7btool\x7d"
  arguments := [[], utf8 "a\tb", utf8 "say \"so\"", utf8 "$\x7bkept\x7d", utf8 "$\x7bnext\x7d"]
  bindings := .ofList [(utf8 "tool", utf8 "/opt/my tool"), (utf8 "next", utf8 "$\x7btool\x7d")]
  program_ne_nil := by decide

/-- The placeholders that are left are read as they stand. -/
theorem parse_render_assorted :
    assorted.render =
      utf8 "'/opt/my tool' '' 'a\tb' 'say \"so\"' $\x7bkept\x7d $\x7btool\x7d" ∧
    ∃ parsed, parse assorted.render = .ok parsed ∧ parsed.words = assorted.words := by
  constructor
  · decide +kernel
  · exact parse_render assorted (by decide +kernel) (by decide +kernel)

end Overseer.CommandLine
