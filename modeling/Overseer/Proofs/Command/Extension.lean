import Overseer.Proofs.Command.Layout

/-!
# Adding to a command line

White space after a text that is read without a fault leaves nothing open: what comes behind it
is read as if it stood alone.  So a line may be read in parts that are kept apart by white space,
and adding the words of a text to a command line is the same as reading a longer line.

A text is read to its end before any of its words is added, so a fault changes nothing.
-/

namespace Overseer

namespace Command

/-- The words found so far and the words of a text that is kept apart from them. -/
def Reading.followedBy (reading : Reading) (words : List Bytes) : Reading :=
  { reading with later := reading.later ++ words }

@[simp]
theorem Reading.words_followedBy (reading : Reading) (words : List Bytes) :
    (reading.followedBy words).words = reading.words ++ words := by
  simp [Reading.words, followedBy]

section

variable {a b : Bytes} {s : UInt8} {mode : Mode} {reading : Reading}

/-- Whatever is done to the front of a reading leaves the words at its end as they are. -/
theorem map_followedBy {f : Reading → Reading} {read longer : Except Fault Reading}
    {words : Except Fault (List Bytes)}
    (keepsEnd : ∀ found more, f (found.followedBy more) = (f found).followedBy more)
    (mapped : read.map f = .ok reading)
    (split : ∀ found, read = .ok found → longer = words.map found.followedBy) :
    longer.map f = words.map reading.followedBy := by
  cases read with
  | error fault => contradiction
  | ok found =>
      obtain rfl : f found = reading := Except.ok.inj mapped
      rw [split found rfl]
      cases words with
      | error fault => rfl
      | ok more => exact congrArg Except.ok (keepsEnd found more)

/-- Behind white space reading starts afresh.  The induction goes through the modes of the reader:
a text that is read without a fault has closed all its quotes. -/
theorem readFrom_append_blank (blank : s ∈ blanks) (read : readFrom mode a = .ok reading) :
    readFrom mode (a ++ s :: b) = (split b).map reading.followedBy := by
  induction a generalizing mode reading with
  | nil =>
      cases mode with
      | bare =>
          obtain rfl : { here := none, later := [] } = reading := Except.ok.inj read
          rw [List.nil_append, readFrom_bare_blank (isBlank_iff.mpr blank), split]
          cases readFrom .bare b <;> rfl
      | inside closing => contradiction
  | cons first rest inductionHypothesis =>
      rw [List.cons_append]
      cases mode with
      | bare =>
          unfold readFrom at read ⊢
          split at read
          · next spaced =>
              rw [if_pos spaced]
              refine map_followedBy ?_ read fun found => inductionHypothesis
              intro found more
              simp [Reading.separate, Reading.followedBy, Reading.words]
          · next unspaced =>
              rw [if_neg unspaced]
              split at read
              · next mark =>
                  rw [if_pos mark]
                  exact map_followedBy (fun _ _ => rfl) read fun found => inductionHypothesis
              · next plain =>
                  rw [if_neg plain]
                  exact map_followedBy (fun _ _ => rfl) read fun found => inductionHypothesis
      | inside closing =>
          unfold readFrom at read ⊢
          split at read
          · next closes =>
              rw [if_pos closes]
              exact inductionHypothesis read
          · next stays =>
              rw [if_neg stays]
              exact map_followedBy (fun _ _ => rfl) read fun found => inductionHypothesis

/-- The words of two texts that white space keeps apart are those of the one and of the other. -/
theorem split_append_blank {words : List Bytes} (blank : s ∈ blanks) (found : split a = .ok words) :
    split (a ++ s :: b) = (split b).map (words ++ ·) := by
  unfold split at found
  cases read : readFrom .bare a with
  | error fault =>
      rw [read] at found
      contradiction
  | ok reading =>
      rw [read] at found
      obtain rfl : reading.words = words := Except.ok.inj found
      rw [split, readFrom_append_blank blank read]
      cases split b with
      | error fault => rfl
      | ok more => exact congrArg Except.ok (reading.words_followedBy more)

end

end Command

namespace CommandLine

open Command

variable {a b : Bytes} {s : UInt8}

/-- Adding the words of two texts one after the other is adding those of both at once. -/
theorem addArguments_append_blank {line extended : CommandLine} (blank : s ∈ blanks)
    (added : line.addArguments a = .ok extended) :
    line.addArguments (a ++ s :: b) = extended.addArguments b := by
  unfold addArguments at added
  cases found : split a with
  | error fault =>
      rw [found] at added
      contradiction
  | ok words =>
      rw [found] at added
      obtain rfl : { line with arguments := line.arguments ++ words } = extended :=
        Except.ok.inj added
      rw [addArguments, addArguments, split_append_blank blank found]
      cases split b with
      | error fault => rfl
      | ok more => simp [Except.map]

/-- A line that goes on behind white space gives the command line of its first part with the
words of the rest added. -/
theorem parse_append_blank {line : CommandLine} (blank : s ∈ blanks) (read : parse a = .ok line) :
    parse (a ++ s :: b) = line.addArguments b := by
  obtain ⟨found, unbound⟩ := parse_eq_ok_iff.mp read
  have longer := split_append_blank (b := b) blank found
  rw [addArguments]
  cases rest : split b with
  | error fault =>
      rw [rest] at longer
      exact parse_eq_error_iff.mpr (.inr (.inr longer))
  | ok more =>
      rw [rest] at longer
      exact parse_eq_ok_iff.mpr ⟨longer, unbound⟩

/-- Adding words in place, once they have been found, raises nothing. -/
theorem run_forM_addArgument (line : CommandLine) (words : List Bytes) :
    (words.forM fun word => (modify (·.addArgument word) : EStateM Fault CommandLine Unit)).run
        line = .ok () { line with arguments := line.arguments ++ words } := by
  induction words generalizing line with
  | nil => simp [EStateM.run, pure, EStateM.pure]
  | cons word words inductionHypothesis =>
      refine (inductionHypothesis (line.addArgument word)).trans ?_
      simp [addArgument]

/-- In place the same words are added, or the command line stays. -/
theorem run_extend (line : CommandLine) (text : Bytes) :
    (extend text).run line =
      match line.addArguments text with
      | .ok extended => .ok () extended
      | .error fault => .error fault line := by
  unfold extend addArguments
  cases split text with
  | error fault => rfl
  | ok words => exact run_forM_addArgument line words

/-- Lines are put together from texts that white space keeps apart.

* If the first text reads as a command line, both together read as that with the words of the
  second text added, and fail just when adding these fails, with the same fault.
* If the words of the first text can be added to a command line, adding those of both is adding
  the words of the second text after that.
* A command line to which words cannot be added in place is left as it was, and one to which they
  can be added holds them afterwards. -/
theorem addArguments_composes (a b : Bytes) {s : UInt8} (blank : s ∈ blanks) :
    (∀ line, parse a = .ok line → parse (a ++ s :: b) = line.addArguments b) ∧
    (∀ line extended : CommandLine, line.addArguments a = .ok extended →
      line.addArguments (a ++ s :: b) = extended.addArguments b) ∧
    (∀ (line left : CommandLine) fault, (extend b).run line = .error fault left →
      line.addArguments b = .error fault ∧ left = line) ∧
    (∀ (line left : CommandLine), (extend b).run line = .ok () left →
      line.addArguments b = .ok left) := by
  refine ⟨?_, ?_, ?_, ?_⟩
  · intro line read
    exact parse_append_blank blank read
  · intro line extended added
    exact addArguments_append_blank blank added
  · intro line left fault raised
    rw [run_extend] at raised
    cases added : line.addArguments b with
    | ok extended =>
        rw [added] at raised
        contradiction
    | error cause =>
        rw [added] at raised
        obtain ⟨rfl, rfl⟩ := EStateM.Result.error.inj raised
        exact ⟨rfl, rfl⟩
  · intro line left done
    rw [run_extend] at done
    cases added : line.addArguments b with
    | error cause =>
        rw [added] at done
        contradiction
    | ok extended =>
        rw [added] at done
        exact congrArg Except.ok (EStateM.Result.ok.inj done).2

/-- A program with one argument, which holds a space and double quotes. -/
def quoting : CommandLine where
  program := utf8 "tool"
  arguments := [utf8 "-a \"b\""]
  bindings := .empty
  program_ne_nil := by decide

/-- Behind a line feed the line goes on with an empty word and one made of bare bytes and a quoted
run.  A quote that is never closed makes reading fail as it makes adding the words fail. -/
theorem addArguments_composes_quoting :
    let line := utf8 "tool '-a \"b\"'"
    let rest := utf8 "'' c\"d e\""
    let unclosed := utf8 "c 'd"
    Byte.newline ∈ blanks ∧ parse line = .ok quoting ∧
      parse (line ++ Byte.newline :: rest) = quoting.addArguments rest ∧
      (quoting.addArguments rest).map (·.arguments) = .ok [utf8 "-a \"b\"", [], utf8 "cd e"] ∧
      parse (line ++ Byte.newline :: unclosed) = quoting.addArguments unclosed ∧
      quoting.addArguments unclosed = .error .unterminatedQuote := by
  intro line rest unclosed
  have blank : Byte.newline ∈ blanks := by decide
  have read : parse line = .ok quoting := rfl
  have composes := fun more => (addArguments_composes line more blank).1 quoting read
  exact ⟨blank, read, composes rest, rfl, composes unclosed, rfl⟩

end CommandLine

end Overseer
