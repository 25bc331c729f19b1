import Mathlib.Logic.Function.Iterate
import Overseer.Pump.Step

/-!
# What an output pump collects

An output pump reads until its stream ends or a read fails, and writes what it reads to a sink.
The sink has then been given all that was read, in order and each byte once, up to the first write
that it refuses.
-/

namespace Overseer.Pump

variable {σ : Type}

/-! ## Reads and sinks -/

namespace ReadReply

/-- The bytes that were read. -/
def chunk? : ReadReply → Option Bytes
  | data chunk => some chunk
  | _ => none

/-- Whether nothing more is read. -/
def isLast : ReadReply → Bool
  | ended | failed _ => true
  | data _ | interrupted => false

/-- The fault of a read. -/
def fault? : ReadReply → Option Fault
  | failed errno => some (readFault errno)
  | _ => none

end ReadReply

namespace SinkKind

/-- A sink after writes, whatever they were answered. -/
def after (kind : SinkKind σ) (sink : σ) (chunks : List Bytes) : σ :=
  chunks.foldl (fun sink chunk => (kind.write chunk sink).2) sink

/-- Whether a sink takes one chunk after the other. -/
def Takes (kind : SinkKind σ) : σ → List Bytes → Prop
  | _, [] => True
  | sink, chunk :: later =>
      (kind.write chunk sink).1 = true ∧ kind.Takes (kind.write chunk sink).2 later

/-- Whether a sink takes some chunks and then refuses one. -/
structure Refuses (kind : SinkKind σ) (sink : σ) (before : List Bytes) (refused : Bytes) :
    Prop where
  /-- Those before are taken. -/
  takes : kind.Takes sink before
  /-- The next one is refused. -/
  refuses : (kind.write refused (kind.after sink before)).1 = false

/-- What sinks of a kind hold: what they were given, in order, and of a chunk that they refuse at
most the beginning.  Flushing loses nothing. -/
structure Keeps (kind : SinkKind σ) (held : σ → Bytes) : Prop where
  /-- A chunk that is taken is held. -/
  taken : ∀ chunk sink, (kind.write chunk sink).1 = true →
    held (kind.write chunk sink).2 = held sink ++ chunk
  /-- A chunk that is refused may be held in part. -/
  refused : ∀ chunk sink, (kind.write chunk sink).1 = false →
    ∃ part, part <+: chunk ∧ held (kind.write chunk sink).2 = held sink ++ part
  /-- Flushing loses nothing. -/
  flushed : ∀ sink, held (kind.flush sink).2 = held sink

/-- Sinks of a kind hold nothing of a chunk that they refuse. -/
def TakesWhole (kind : SinkKind σ) (held : σ → Bytes) : Prop :=
  ∀ chunk sink, (kind.write chunk sink).1 = false → held (kind.write chunk sink).2 = held sink

section

variable {kind : SinkKind σ} {sink : σ} {chunks : List Bytes} {held : σ → Bytes}

theorem Keeps.held_after (keeps : kind.Keeps held) (takes : kind.Takes sink chunks) :
    held (kind.after sink chunks) = held sink ++ chunks.flatten := by
  induction chunks generalizing sink with
  | nil => simp [after]
  | cons chunk later inductionHypothesis =>
      have held_later := inductionHypothesis takes.2
      rw [keeps.taken chunk sink takes.1, List.append_assoc] at held_later
      exact held_later

/-- A sink that does not take all refuses a first one. -/
theorem exists_refuses (refused : ¬kind.Takes sink chunks) :
    ∃ before chunk later, chunks = before ++ chunk :: later ∧ kind.Refuses sink before chunk := by
  induction chunks generalizing sink with
  | nil => exact absurd trivial refused
  | cons chunk later inductionHypothesis =>
      cases answer : (kind.write chunk sink).1 with
      | false => exact ⟨[], chunk, later, rfl, trivial, answer⟩
      | true =>
          have refused_later : ¬kind.Takes (kind.write chunk sink).2 later :=
            fun takes => refused ⟨answer, takes⟩
          obtain ⟨before, first, rest, rfl, refuses⟩ := inductionHypothesis refused_later
          exact ⟨chunk :: before, first, rest, rfl, ⟨answer, refuses.takes⟩, refuses.refuses⟩

theorem Refuses.not_takes {before later : List Bytes} {chunk : Bytes}
    (refuses : kind.Refuses sink before chunk) : ¬kind.Takes sink (before ++ chunk :: later) := by
  obtain ⟨takes, refuses⟩ := refuses
  induction before generalizing sink with
  | nil =>
      intro all
      exact Bool.false_ne_true (refuses.symm.trans all.1)
  | cons first before inductionHypothesis =>
      intro all
      exact inductionHypothesis takes.2 refuses all.2

end

end SinkKind

/-- Sinks with a limit hold what they have taken. -/
theorem Sink.keeps_taken : Sink.kind.Keeps Sink.taken where
  taken := by
    intro chunk sink answer
    simp only [kind, write] at answer ⊢
    cases failed : sink.failed with
    | true => simp [failed] at answer
    | false =>
        cases limit : sink.room with
        | none => simp
        | some room =>
            by_cases fits : chunk.length ≤ room
            · simp [fits]
            · simp [failed, limit, fits] at answer
  refused := by
    intro chunk sink answer
    simp only [kind, write] at answer ⊢
    cases failed : sink.failed with
    | true => exact ⟨[], List.nil_prefix, by simp⟩
    | false =>
        cases limit : sink.room with
        | none => simp [failed, limit] at answer
        | some room =>
            by_cases fits : chunk.length ≤ room
            · simp [failed, limit, fits] at answer
            · exact ⟨chunk.take room, List.take_prefix .., by simp [fits]⟩
  flushed _ := rfl

/-! ## Steps -/

/-- One step of an output pump, given what is answered if it reads. -/
def Draining.step (kind : SinkKind σ) (reply : ReadReply) (sink : σ) : Draining → Draining × σ
  | reading => (read reply, sink)
  | holding chunk => write kind chunk sink
  | flushing => flush kind sink
  | ended fault => (ended fault, sink)

/-- An output pump under way. -/
structure Drainer (σ : Type) where
  /-- Where it is. -/
  stage : Draining := .reading
  /-- Its sink. -/
  sink : σ
  /-- What its reads will be answered; behind the last of them the stream has ended. -/
  reads : List ReadReply

namespace Drainer

/-- The pump one step later. -/
def step (kind : SinkKind σ) (p : Drainer σ) : Drainer σ :=
  let (stage, sink) := p.stage.step kind (p.reads.headD .ended) p.sink
  { stage, sink, reads := if p.stage = .reading then p.reads.tail else p.reads }

section

variable {kind : SinkKind σ} {sink : σ} {reads : List ReadReply}

/-- A read is followed by what comes of its answer. -/
theorem iterate_read (reply : ReadReply) (n : Nat) :
    (step kind)^[n + 1] { sink, reads := reply :: reads } =
      (step kind)^[n] { stage := .read reply, sink, reads } :=
  rfl

theorem iterate_write (chunk : Bytes) (n : Nat) :
    (step kind)^[n + 1] { stage := .holding chunk, sink, reads } =
      (step kind)^[n] { stage := (Draining.write kind chunk sink).1
                        sink := (Draining.write kind chunk sink).2, reads } :=
  rfl

/-- The pump comes to an end, and then `drain` says what it has come to. -/
theorem exists_ended (kind : SinkKind σ) (sink : σ) (reads : List ReadReply) :
    ∃ n, let p := (step kind)^[n] { sink, reads }
      p.stage = .ended (drain kind reads sink).1 ∧ p.sink = (drain kind reads sink).2 := by
  induction reads generalizing sink with
  | nil => exact ⟨2, rfl, rfl⟩
  | cons reply reads inductionHypothesis =>
      cases reply with
      | ended => exact ⟨2, rfl, rfl⟩
      | failed errno => exact ⟨1, rfl, rfl⟩
      | interrupted =>
          obtain ⟨n, later⟩ := inductionHypothesis sink
          exact ⟨n + 1, later⟩
      | data chunk =>
          cases answer : (kind.write chunk sink).1 with
          | true =>
              obtain ⟨n, later⟩ := inductionHypothesis (kind.write chunk sink).2
              refine ⟨n + 2, ?_⟩
              rw [iterate_read, Draining.read, iterate_write, Draining.write_of_taken answer,
                drain_data_of_taken answer]
              exact later
          | false =>
              refine ⟨2, ?_⟩
              rw [iterate_read, Draining.read, iterate_write, Draining.write_of_refused answer,
                drain_data_of_refused answer]
              exact ⟨rfl, rfl⟩

end

end Drainer

/-! ## What a sink is given -/

section

variable {kind : SinkKind σ} {sink : σ} {answers : List ReadReply} {last : ReadReply}
  {held : σ → Bytes}

/-- Interrupted reads make no difference. -/
theorem drain_filter (kind : SinkKind σ) (reads : List ReadReply) (sink : σ) :
    drain kind (reads.filter (· ≠ .interrupted)) sink = drain kind reads sink := by
  induction reads generalizing sink with
  | nil => rfl
  | cons reply reads inductionHypothesis =>
      cases reply with
      | interrupted => exact inductionHypothesis sink
      | ended | failed errno => rfl
      | data chunk =>
          rw [List.filter_cons_of_pos (by simp)]
          cases answer : (kind.write chunk sink).1 with
          | true =>
              rw [drain_data_of_taken answer, drain_data_of_taken answer]
              exact inductionHypothesis _
          | false => rw [drain_data_of_refused answer, drain_data_of_refused answer]

/-- A sink that takes all that is read is left to the last read. -/
theorem drain_of_takes (going : ∀ reply ∈ answers, reply.isLast = false)
    (takes : kind.Takes sink (answers.filterMap ReadReply.chunk?)) (rest : List ReadReply) :
    drain kind (answers ++ rest) sink =
      drain kind rest (kind.after sink (answers.filterMap ReadReply.chunk?)) := by
  induction answers generalizing sink with
  | nil => rfl
  | cons reply answers inductionHypothesis =>
      have going' := fun other found => going other (List.mem_cons_of_mem _ found)
      cases reply with
      | ended | failed errno => exact absurd (going _ List.mem_cons_self) Bool.true_eq_false.mp
      | interrupted => exact inductionHypothesis going' takes
      | data chunk =>
          rw [List.cons_append, drain_data_of_taken takes.1]
          exact inductionHypothesis going' takes.2

/-- A sink that refuses a chunk is left as that leaves it. -/
theorem drain_of_refuses (going : ∀ reply ∈ answers, reply.isLast = false)
    {before later : List Bytes} {chunk : Bytes}
    (chunks : answers.filterMap ReadReply.chunk? = before ++ chunk :: later)
    (refuses : kind.Refuses sink before chunk) (rest : List ReadReply) :
    drain kind (answers ++ rest) sink =
      (some sinkFault, (kind.write chunk (kind.after sink before)).2) := by
  induction answers generalizing sink before with
  | nil => simp at chunks
  | cons reply answers inductionHypothesis =>
      have going' := fun other found => going other (List.mem_cons_of_mem _ found)
      cases reply with
      | ended | failed errno => exact absurd (going _ List.mem_cons_self) Bool.true_eq_false.mp
      | interrupted => exact inductionHypothesis going' chunks refuses
      | data read =>
          obtain ⟨takes, refused⟩ := refuses
          change read :: answers.filterMap ReadReply.chunk? = _ at chunks
          rw [List.cons_append]
          cases before with
          | nil =>
              obtain ⟨rfl, -⟩ := List.cons.inj chunks
              exact drain_data_of_refused refused _
          | cons first before =>
              obtain ⟨rfl, others⟩ := List.cons.inj chunks
              rw [drain_data_of_taken takes.1]
              exact inductionHypothesis going' others ⟨takes.2, refused⟩

/-- The last read decides the fault, and leaves what the sink holds. -/
theorem drain_last (keeps : kind.Keeps held) (sink : σ) (final : last.isLast = true) :
    (drain kind [last] sink).1 = last.fault? ∧ held (drain kind [last] sink).2 = held sink := by
  cases last with
  | ended => exact ⟨rfl, keeps.flushed sink⟩
  | failed errno => exact ⟨rfl, rfl⟩
  | data chunk | interrupted => exact absurd final Bool.false_ne_true

theorem fault?_ne_none_iff (final : last.isLast = true) : last.fault? ≠ none ↔ last ≠ .ended := by
  cases last with
  | ended => simp [ReadReply.fault?]
  | failed errno => simp [ReadReply.fault?]
  | data chunk | interrupted => exact absurd final Bool.false_ne_true

end

/-- Whatever the reads of an output pump are answered until its stream ends or a read fails, and
whichever chunk its sink is the first to refuse, the pump comes to an end, where `drain` says what
it has come to.  Interrupted reads make no difference.

* If the sink takes all chunks it holds them, in order, behind what it held before, and the fault
  of the pump is that of the last read, if it has one.
* If it takes some chunks and refuses the next one, it held just those before that write.  Behind
  them it holds the beginning of the chunk that it refused, as far as it has kept that itself, and
  no more than them if it only takes chunks as a whole.  The fault is that of the sink.

So there is a fault if and only if the last read failed or the sink did not take all chunks. -/
theorem collects_without_loss (kind : SinkKind σ) {held : σ → Bytes} (keeps : kind.Keeps held)
    (sink : σ) {answers : List ReadReply} {last : ReadReply}
    (going : ∀ reply ∈ answers, reply.isLast = false) (final : last.isLast = true) :
    let reads := answers ++ [last]
    let chunks := answers.filterMap ReadReply.chunk?
    ∃ n fault,
      let p := (Drainer.step kind)^[n] { sink, reads }
      p.stage = .ended fault ∧ drain kind reads sink = (fault, p.sink) ∧
      drain kind (reads.filter (· ≠ .interrupted)) sink = (fault, p.sink) ∧
      (kind.Takes sink chunks → held p.sink = held sink ++ chunks.flatten ∧ fault = last.fault?) ∧
      (∀ before chunk later, chunks = before ++ chunk :: later → kind.Refuses sink before chunk →
        held (kind.after sink before) = held sink ++ before.flatten ∧
        p.sink = (kind.write chunk (kind.after sink before)).2 ∧
        (∃ kept, kept <+: chunk ∧ held p.sink = held sink ++ before.flatten ++ kept) ∧
        (kind.TakesWhole held → held p.sink = held sink ++ before.flatten) ∧
        fault = some sinkFault) ∧
      (kind.Takes sink chunks ∨
        ∃ before chunk later, chunks = before ++ chunk :: later ∧ kind.Refuses sink before chunk) ∧
      (fault ≠ none ↔ last ≠ .ended ∨ ¬kind.Takes sink chunks) := by
  intro reads chunks
  obtain ⟨n, ended, left⟩ := Drainer.exists_ended kind sink reads
  have split : kind.Takes sink chunks ∨ ∃ before chunk later,
      chunks = before ++ chunk :: later ∧ kind.Refuses sink before chunk := by
    by_cases takes : kind.Takes sink chunks
    · exact .inl takes
    · exact .inr (SinkKind.exists_refuses takes)
  refine ⟨n, (drain kind reads sink).1, ended, ?_, ?_, ?_, ?_, split, ?_⟩
  · rw [left]
  · rw [drain_filter, left]
  · intro takes
    rw [left, drain_of_takes going takes]
    obtain ⟨fault, held_last⟩ := drain_last keeps (kind.after sink chunks) final
    exact ⟨held_last.trans (keeps.held_after takes), fault⟩
  · intro before chunk later cut refuses
    rw [left, drain_of_refuses going cut refuses]
    have held_before := keeps.held_after refuses.takes
    obtain ⟨kept, beginning, held_refused⟩ := keeps.refused _ _ refuses.refuses
    refine ⟨held_before, rfl, ⟨kept, beginning, ?_⟩, ?_, rfl⟩
    · rw [held_refused, held_before]
    · intro whole
      exact (whole _ _ refuses.refuses).trans held_before
  · rcases split with takes | ⟨before, chunk, later, cut, refuses⟩
    · rw [drain_of_takes going takes, (drain_last keeps _ final).1, fault?_ne_none_iff final]
      simp [takes]
    · have refused : ¬kind.Takes sink chunks := cut ▸ refuses.not_takes
      rw [drain_of_refuses going cut refuses]
      simp [refused]

/-- Two chunks with interruptions between them, and then a read that fails. -/
def broken : List ReadReply :=
  [.interrupted, .data (utf8 "ab"), .interrupted, .interrupted, .data (utf8 "cd")]

/-- A sink with room for three bytes refuses the second chunk and keeps one byte of it; one
without a limit takes both, and the read that fails is told of. -/
theorem collects_without_loss_broken :
    let last : ReadReply := .failed .inputOutput
    let tight : Sink := { limit := some 3 }
    (∀ reply ∈ broken, reply.isLast = false) ∧ last.isLast = true ∧
      (∃ kept, kept <+: utf8 "cd" ∧
        (drain Sink.kind (broken ++ [last]) tight).2.taken = utf8 "ab" ++ kept) ∧
      (drain Sink.kind (broken ++ [last]) tight).1 = some sinkFault ∧
      (drain Sink.kind (broken ++ [last]) {}).2.taken = utf8 "abcd" ∧
      (drain Sink.kind (broken ++ [last]) {}).1 = some (readFault .inputOutput) := by
  intro last tight
  have going : ∀ reply ∈ broken, reply.isLast = false := by decide
  have final : last.isLast = true := rfl
  obtain ⟨_, _, _, tightly, _, _, refused, _⟩ :=
    collects_without_loss Sink.kind Sink.keeps_taken tight going final
  obtain ⟨_, _, _, widely, _, taken, _⟩ :=
    collects_without_loss Sink.kind Sink.keeps_taken {} going final
  have refuses : Sink.kind.Refuses tight [utf8 "ab"] (utf8 "cd") :=
    ⟨⟨by decide, trivial⟩, by decide⟩
  have takes : Sink.kind.Takes {} [utf8 "ab", utf8 "cd"] := ⟨by decide, by decide, trivial⟩
  obtain ⟨_, _, kept, _, sinkFailed⟩ := refused [utf8 "ab"] (utf8 "cd") [] rfl refuses
  obtain ⟨held, readFailed⟩ := taken takes
  rw [tightly, widely]
  exact ⟨going, final, kept, sinkFailed, held, readFailed⟩

end Overseer.Pump
