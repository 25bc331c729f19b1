import Overseer.Pump.Feed
import Overseer.Stream.Owned

/-!
# What an input pump leaves open

An input pump closes the stream it writes to when its source has ended, and when the process no
longer reads.  A write that fails in any other way ends the pump with the stream open, and who
reads from it is not told that nothing more will come.

Whether that happens can be told from what the source holds and from the answers of the writes.
Every write is asked to take the rest of a chunk, so `progress` counts what was taken without
looking at the bytes.
-/

namespace Overseer.Pump

/-- How many bytes a source still gives. -/
def Source.available (source : Source) : Nat :=
  if source.failed then 0 else source.remaining.length

/-- How many of `total` bytes are taken once a write was answered that comes after the first `done`
of them: it is asked to take what is left of its chunk. -/
def advance (total done : Nat) : WriteReply → Nat
  | .taken count => done + min count (min (chunkSize - done % chunkSize) (total - done))
  | .failed _ => done

/-- How many of `total` bytes are taken by writes with these answers, `done` of them before. -/
def progress (total done : Nat) (replies : List WriteReply) : Nat :=
  replies.foldl (advance total) done

/-- Whether one of the writes after the first `done` of `total` bytes fails: it is made since bytes
are left, none before it has failed, and it was not just interrupted.  That the process no longer
reads does not count. -/
def Fails (total done : Nat) (replies : List WriteReply) (errno : Errno) : Prop :=
  ∃ before later, replies = before ++ .failed errno :: later ∧
    (∀ other, .failed other ∈ before → other = .interrupted) ∧
    progress total done before < total ∧ errno ≠ .interrupted ∧ errno ≠ .brokenPipe

section

variable {total done : Nat} {replies : List WriteReply} {reply : WriteReply} {errno : Errno}

theorem le_progress : done ≤ progress total done replies := by
  induction replies generalizing done with
  | nil => exact Nat.le_refl done
  | cons reply replies inductionHypothesis =>
      have onward : done ≤ advance total done reply := by
        cases reply <;> simp [advance]
      exact Nat.le_trans onward inductionHypothesis

/-- Once all bytes are taken nothing is written any more. -/
theorem not_fails_of_le (full : total ≤ done) : ¬Fails total done replies errno := by
  rintro ⟨before, later, -, -, left, -⟩
  exact absurd (Nat.lt_of_le_of_lt (Nat.le_trans full le_progress) left) (Nat.lt_irrefl total)

theorem not_fails_nil : ¬Fails total done [] errno := by
  rintro ⟨before, later, split, -⟩
  simp at split

/-- Either the first write fails, or it does not end the pump and a later one fails. -/
theorem fails_cons :
    Fails total done (reply :: replies) errno ↔
      (reply = .failed errno ∧ done < total ∧ errno ≠ .interrupted ∧ errno ≠ .brokenPipe) ∨
        (∀ other, reply = .failed other → other = .interrupted) ∧
          Fails total (advance total done reply) replies errno := by
  constructor
  · rintro ⟨before, later, split, passing, left, earnest⟩
    cases before with
    | nil =>
        obtain ⟨rfl, rfl⟩ := List.cons.inj split
        exact .inl ⟨rfl, left, earnest⟩
    | cons first before =>
        obtain ⟨rfl, rfl⟩ := List.cons.inj split
        refine .inr ⟨fun other same => passing other (same ▸ List.mem_cons_self), before, later,
          rfl, fun other found => passing other (List.mem_cons_of_mem _ found), left, earnest⟩
  · rintro (⟨rfl, left, earnest⟩ | ⟨passes, before, later, rfl, passing, left, earnest⟩)
    · exact ⟨[], replies, rfl, by simp, left, earnest⟩
    · refine ⟨reply :: before, later, rfl, fun other found => ?_, left, earnest⟩
      rcases List.mem_cons.mp found with same | found
      · exact passes other same.symm
      · exact passing other found

theorem fails_taken (count : Nat) :
    Fails total done (.taken count :: replies) errno ↔
      Fails total (advance total done (.taken count)) replies errno := by
  rw [fails_cons]
  simp

/-- An interrupted write is made again. -/
theorem fails_interrupted :
    Fails total done (.failed .interrupted :: replies) errno ↔ Fails total done replies errno := by
  rw [fails_cons]
  constructor
  · rintro (⟨same, -, earnest, -⟩ | ⟨-, later⟩)
    · exact absurd (WriteReply.failed.inj same).symm earnest
    · exact later
  · intro later
    exact .inr ⟨fun other same => (WriteReply.failed.inj same).symm, later⟩

theorem not_fails_unread : ¬Fails total done (.failed .brokenPipe :: replies) errno := by
  rw [fails_cons]
  rintro (⟨same, -, -, unread⟩ | ⟨passes, -⟩)
  · exact unread (WriteReply.failed.inj same).symm
  · exact absurd (passes .brokenPipe rfl) (by decide)

theorem fails_failed {cause : Errno} (left : done < total) (notInterrupted : cause ≠ .interrupted)
    (notUnread : cause ≠ .brokenPipe) :
    Fails total done (.failed cause :: replies) errno ↔ errno = cause := by
  rw [fails_cons]
  constructor
  · rintro (⟨same, -⟩ | ⟨passes, -⟩)
    · exact (WriteReply.failed.inj same).symm
    · exact absurd (passes cause rfl) notInterrupted
  · rintro rfl
    exact .inl ⟨rfl, left, notInterrupted, notUnread⟩

end

section

variable {total done : Nat} {replies : List WriteReply} {data : Bytes}

/-- Whether these bytes are what a write is asked to take after the first `done` of `total`. -/
def IsAsked (total done : Nat) (data : Bytes) : Prop :=
  data.length = min (chunkSize - done % chunkSize) (total - done)

/-- Of what a write is asked to take it takes so many bytes, or all. -/
theorem IsAsked.advance_eq (asked : IsAsked total done data) (count : Nat) :
    advance total done (.taken count) = done + min count data.length := by
  rw [advance, asked]

/-- What is left of a chunk when some of it was taken is asked for next, unless nothing is left. -/
theorem IsAsked.drop (asked : IsAsked total done data) (count : Nat) :
    data.drop count = [] ∨ IsAsked total (advance total done (.taken count)) (data.drop count) := by
  by_cases all : data.length ≤ count
  · exact .inl (List.drop_eq_nil_of_le all)
  · right
    rw [asked.advance_eq, Nat.min_eq_left (Nat.le_of_not_le all)]
    unfold IsAsked at *
    have same : (done + count) % chunkSize = done % chunkSize + count := by
      simp only [chunkSize] at *
      omega
    rw [List.length_drop, same]
    omega

theorem IsAsked.lt (asked : IsAsked total done data) (nonempty : data ≠ []) : done < total := by
  have positive := List.length_pos_iff.mpr nonempty
  unfold IsAsked at asked
  omega

/-- Writing a chunk tells whether a write fails: if all of it was taken, the later answers tell. -/
theorem fails_writeAll (asked : data = [] ∨ IsAsked total done data) (errno : Errno) :
    Fails total done replies errno ↔
      match (writeAll replies data).ending with
      | .complete => Fails total (done + data.length) (writeAll replies data).replies errno
      | .unread => False
      | .failed cause => errno = cause := by
  induction replies generalizing done data with
  | nil => simp [not_fails_nil]
  | cons reply replies inductionHypothesis =>
      rcases asked with rfl | asked
      · simp
      cases data with
      | nil => simp
      | cons first rest =>
          cases reply with
          | taken count =>
              have later := inductionHypothesis (asked.drop count)
              have same : advance total done (.taken count) + ((first :: rest).drop count).length =
                  done + (first :: rest).length := by
                rw [asked.advance_eq, List.length_drop]
                omega
              rw [same] at later
              rw [fails_taken]
              exact later
          | failed cause =>
              unfold writeAll
              by_cases interrupted : cause = .interrupted
              · rw [if_pos interrupted, interrupted, fails_interrupted]
                exact inductionHypothesis (.inr asked)
              · rw [if_neg interrupted]
                by_cases unread : cause = .brokenPipe
                · rw [if_pos unread, unread]
                  exact iff_of_false not_fails_unread id
                · rw [if_neg unread]
                  exact fails_failed (asked.lt (List.cons_ne_nil _ _)) interrupted unread

end

/-! ## Feeding -/

section

variable {total done : Nat} {replies : List WriteReply} {source : Source}

/-- A source gives up to a chunk of what it has. -/
theorem Source.length_take_fst (source : Source) :
    source.take.1.length = min chunkSize source.available := by
  unfold take available
  split <;> simp

theorem Source.available_take_snd (source : Source) :
    source.take.2.available = source.available - source.take.1.length := by
  unfold take available
  by_cases failed : source.failed = true
  · simp [failed]
  · simp only [if_neg failed, List.length_take, List.length_drop]
    omega

theorem isAsked_take (held : done + source.available = total)
    (aligned : done % chunkSize = 0 ∨ source.available = 0) :
    IsAsked total done source.take.1 := by
  unfold IsAsked
  rw [source.length_take_fst]
  omega

/-- The chunks that a pump has written to the end leave its fault to the later ones. -/
theorem fault_feed_of_chunk (chunk : source.take.1 ≠ []) :
    (feed replies source).fault =
      match (writeAll replies source.take.1).ending with
      | .complete => (feed (writeAll replies source.take.1).replies source.take.2).fault
      | .unread => none
      | .failed errno => some (writeFault errno) := by
  rw [feed, dif_neg chunk]
  cases ending : (writeAll replies source.take.1).ending <;> simp only [ending]

/-- The fault of a pump is that of the write that fails. -/
theorem fault_feed (held : done + source.available = total)
    (aligned : done % chunkSize = 0 ∨ source.available = 0) (fault : Fault) :
    (feed replies source).fault = some fault ↔
      ∃ errno, Fails total done replies errno ∧ fault = writeFault errno := by
  induction left : source.available using Nat.strongRecOn generalizing replies source done with
  | ind left inductionHypothesis =>
    have length := source.length_take_fst
    by_cases chunk : source.take.1 = []
    · have full : total ≤ done := by
        rw [chunk, List.length_nil, chunkSize] at length
        omega
      rw [feed, dif_pos chunk]
      simp [not_fails_of_le full]
    · have failing : ∀ errno, Fails total done replies errno ↔ _ :=
        fails_writeAll (.inr (isAsked_take held aligned))
      rw [fault_feed_of_chunk chunk]
      cases ending : (writeAll replies source.take.1).ending with
      | complete =>
          simp only [ending] at failing
          have rest := source.available_take_snd
          have fewer : source.take.1.length ≠ 0 := by
            rwa [ne_eq, List.length_eq_zero_iff]
          simp only [failing]
          refine inductionHypothesis _ ?_ ?_ ?_ rfl
          · omega
          · omega
          · simp only [chunkSize] at *
            omega
      | unread =>
          simp only [ending] at failing
          simp [failing]
      | failed cause =>
          simp only [ending] at failing
          simp [failing, eq_comm]

end

/-! ## What is left open -/

/-- Who is closed is closed, however the system answers. -/
theorem stream_close (o : Ownership) (i : Nat) (reply : Except Errno Unit) :
    (o.close i reply).2.stream i = {} := by
  simp only [Ownership.close, Ownership.stream, Ownership.setStream, Ownership.noteClose]
  by_cases inside : i < o.streams.length
  · simp [List.getD_eq_getElem?_getD, inside]
  · simp [List.getD_eq_getElem?_getD, Nat.le_of_not_lt inside]

section

variable {replies : List WriteReply} {source : Source}

theorem conclude_of_fails {τ : Type} {errno : Errno}
    (fails : Fails source.available 0 replies errno) (close : τ → Except Fault Unit × τ)
    (stream : τ) :
    (feed replies source).conclude close stream = (some (writeFault errno), stream) := by
  have faulty := (fault_feed (Nat.zero_add _) (.inl rfl) (writeFault errno)).mpr ⟨errno, fails, rfl⟩
  rw [Fed.conclude, faulty]

theorem conclude_of_not_fails {τ : Type} (fine : ∀ errno, ¬Fails source.available 0 replies errno)
    (close : τ → Except Fault Unit × τ) (stream : τ) :
    ((feed replies source).conclude close stream).2 = (close stream).2 := by
  have noFault : (feed replies source).fault = none := by
    rw [Option.eq_none_iff_forall_ne_some]
    intro fault raised
    obtain ⟨errno, fails, -⟩ := (fault_feed (Nat.zero_add _) (.inl rfl) fault).mp raised
    exact fine errno fails
  rw [Fed.conclude, noFault]
  cases close stream with
  | mk reply closed => cases reply <;> rfl

end

/-- When an input pump has ended the stream it wrote to is open if and only if a write has failed,
other than because the process no longer reads.  Then the pump has raised that failure and closed
nothing.  At the end of the source and when the process no longer reads the stream was closed. -/
theorem isOpen_conclude_iff (replies : List WriteReply) (source : Source)
    (closing : Except Errno Unit) {o : Ownership} {i : Nat} (isOpen : (o.stream i).isOpen = true) :
    let ended := (feed replies source).conclude (·.close i closing) o
    ((ended.2.stream i).isOpen = true ↔ ∃ errno, Fails source.available 0 replies errno) ∧
      (∀ errno, Fails source.available 0 replies errno →
        ended = (some (writeFault errno), o)) ∧
      ((∀ errno, ¬Fails source.available 0 replies errno) →
        ended.2 = (o.close i closing).2) := by
  intro ended
  have closes : (∀ errno, ¬Fails source.available 0 replies errno) →
      ended.2 = (o.close i closing).2 := fun fine => conclude_of_not_fails fine ..
  have raises : ∀ errno, Fails source.available 0 replies errno →
      ended = (some (writeFault errno), o) := fun errno fails => conclude_of_fails fails ..
  refine ⟨?_, raises, closes⟩
  constructor
  · intro stillOpen
    by_cases fails : ∃ errno, Fails source.available 0 replies errno
    · exact fails
    · rw [closes (not_exists.mp fails), stream_close] at stillOpen
      contradiction
  · rintro ⟨errno, fails⟩
    rw [raises errno fails]
    exact isOpen

/-- A single stream, which holds a descriptor. -/
def lonely : Ownership where
  streams := [.ofDescriptor 3]

/-- Interrupted and partial writes do not keep a stream from being closed, nor does a process that
no longer reads; a write that fails behind them does. -/
theorem isOpen_conclude_iff_lonely :
    let source : Source := { remaining := utf8 "abc" }
    let interrupted := [.failed .interrupted, .taken 2]
    let unread := [.failed .interrupted, .taken 2, .failed .brokenPipe]
    let failed := [.failed .interrupted, .taken 2, .failed .inputOutput]
    let ended := fun replies => (feed replies source).conclude (·.close 0 (.ok ())) lonely
    (lonely.stream 0).isOpen = true ∧ (ended interrupted).2 = (lonely.close 0 (.ok ())).2 ∧
      (ended unread).2 = (lonely.close 0 (.ok ())).2 ∧
      ended failed = (some (writeFault .inputOutput), lonely) := by
  intro source interrupted unread failed ended
  have isOpen : (lonely.stream 0).isOpen = true := by decide
  have known := fun replies => isOpen_conclude_iff replies source (.ok ()) isOpen
  refine ⟨isOpen, (known interrupted).2.2 ?_, (known unread).2.2 ?_, (known failed).2.1 _ ?_⟩
  · intro errno
    rw [fails_interrupted, fails_taken]
    exact not_fails_nil
  · intro errno
    rw [fails_interrupted, fails_taken]
    exact not_fails_unread
  · exact ⟨interrupted, [], rfl, by simp [interrupted], by decide, by decide, by decide⟩

/-- A pump whose first write fails leaves its stream open. -/
theorem isOpen_of_bad_descriptor :
    let source : Source := { remaining := utf8 "x" }
    let ended := (feed [.failed .badDescriptor] source).conclude (·.close 0 (.ok ())) lonely
    (lonely.stream 0).isOpen = true ∧ (ended.2.stream 0).isOpen = true := by
  intro source ended
  have fails : Fails source.available 0 [.failed .badDescriptor] .badDescriptor :=
    ⟨[], [], rfl, by simp, by decide, by decide, by decide⟩
  have isOpen : (lonely.stream 0).isOpen = true := by decide
  have raised : ended = (some (writeFault .badDescriptor), lonely) := conclude_of_fails fails ..
  constructor
  · exact isOpen
  · rw [raised]
    exact isOpen

end Overseer.Pump
