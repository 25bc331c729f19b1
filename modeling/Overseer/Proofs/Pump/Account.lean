import Overseer.Proofs.Pump.Station

/-!
# What a pump accounts for

What a pump does is a list of deeds: the reads it makes, the chunks it gives to a sink or takes from
the source, and its writes.  As long as nothing fails, what it has taken in is what it has passed on
and what it has in hand, whatever other pumps do with the sinks and the source in between.
-/

namespace Overseer.Pump

variable {σ α : Type}

/-! ## What pumps do -/

/-- What a pump does with the stream of its process, and with what it shares with others. -/
inductive Deed
  /-- It reads, which is answered. -/
  | reads (reply : ReadReply)
  /-- It writes a chunk to the sink of its stream, which takes it or does not. -/
  | puts (stream : StandardStream) (chunk : Bytes) (taken : Bool)
  /-- It takes a chunk from the source, or writes to its stream. -/
  | feeds (deed : FeedingDeed)
deriving DecidableEq

/-- Whether what is read from one output stream goes to the sink of another one. -/
def Shared.leadsTo (r : Shared σ) (stream other : StandardStream) : Bool :=
  stream = other || r.error.isNone

namespace Deed

/-- The answer to a read. -/
def reply? : Deed → Option ReadReply
  | reads reply => some reply
  | _ => none

/-- The chunk that is written to a sink. -/
def put? : Deed → Option Bytes
  | puts _ chunk _ => some chunk
  | _ => none

/-- The chunk that is written to the sink of an output stream. -/
def putTo? (r : Shared σ) (other : StandardStream) : Deed → Option Bytes
  | puts stream chunk _ => if r.leadsTo stream other then some chunk else none
  | _ => none

/-- The chunk that is taken from the source. -/
def taken? : Deed → Option Bytes
  | feeds (.takes chunk) => some chunk
  | _ => none

/-- The bytes that the stream of a process takes. -/
def delivered : Deed → Bytes
  | feeds deed => deed.accepted
  | _ => []

/-- Whether a pump of a stream can do this. -/
def IsOf (stream : StandardStream) : Deed → Prop
  | reads _ => stream ≠ .input
  | puts other _ _ => stream ≠ .input ∧ other = stream
  | feeds _ => stream = .input

/-- Whether neither a read nor a write has failed.  Being interrupted is not a failure. -/
def isFine : Deed → Bool
  | reads (.failed _) => false
  | puts _ _ taken => taken
  | feeds (.writes _ (.failed errno)) => errno = .interrupted
  | _ => true

theorem putTo?_eq_of_isNone_eq {r r' : Shared σ} (same : r.error.isNone = r'.error.isNone)
    (other : StandardStream) : putTo? r other = putTo? r' other := by
  funext deed
  cases deed <;> simp [putTo?, Shared.leadsTo, same]

end Deed

/-- What the next step of a pump does, if it is a call or something with what is shared. -/
def Work.deed? (kind : SinkKind σ) (answers : Answers) (stream : StandardStream)
    (shared : Shared σ) : Work → Option Deed
  | feeding stage =>
      (stage.deed? answers.write (shared.source.getD { remaining := [] })).map .feeds
  | draining .reading => some (.reads answers.read)
  | draining (.holding chunk) =>
      some (.puts stream chunk (kind.write chunk (shared.sink stream)).1)
  | draining .flushing | draining (.ended _) => none

/-- Whether a pump can take its next step without failing. -/
def Work.GoesWell (kind : SinkKind σ) (answers : Answers) (stream : StandardStream)
    (shared : Shared σ) (work : Work) : Prop :=
  ∀ deed, work.deed? kind answers stream shared = some deed → deed.isFine = true

namespace Shared

/-- What the source gives when it is read to its end; nothing if there is none. -/
def content (r : Shared σ) : Bytes :=
  (r.source.getD { remaining := [] }).content

theorem sink_setSink {r : Shared σ} {stream other : StandardStream} (output : stream ≠ .input)
    (output' : other ≠ .input) (sink : σ) :
    (r.setSink stream sink).sink other =
      if r.leadsTo stream other then sink else r.sink other := by
  cases separate : r.error with
  | none =>
      cases stream <;> cases other <;> simp [setSink, Shared.sink, leadsTo, separate] at *
  | some error =>
      cases stream <;> cases other <;> simp [setSink, Shared.sink, leadsTo, separate] at *

theorem sink_eq_of_leadsTo {r : Shared σ} {stream other : StandardStream}
    (leads : r.leadsTo stream other = true) : r.sink stream = r.sink other := by
  rcases Bool.or_eq_true_iff.mp leads with same | together
  · rw [of_decide_eq_true same]
  · rw [Option.isNone_iff_eq_none] at together
    cases stream <;> cases other <;> simp [Shared.sink, together]

/-- Streams with one sink keep it. -/
theorem isNone_error_setSink (r : Shared σ) (stream : StandardStream) (sink : σ) :
    (r.setSink stream sink).error.isNone = r.error.isNone := by
  cases separate : r.error <;> cases stream <;> simp [setSink, separate]

@[simp]
theorem source_setSink (r : Shared σ) (stream : StandardStream) (sink : σ) :
    (r.setSink stream sink).source = r.source := by
  cases separate : r.error <;> cases stream <;> simp [setSink, separate]

@[simp]
theorem content_setSink (r : Shared σ) (stream : StandardStream) (sink : σ) :
    (r.setSink stream sink).content = r.content := by
  simp [content]

theorem content_of_source {r : Shared σ} {source : Source}
    (nothing : r.source = none → source.content = []) :
    content { r with source := r.source.map fun _ => source } = source.content := by
  unfold content
  cases given : r.source with
  | none => exact (nothing given).symm
  | some old => rfl

end Shared

/-! ## A step of a pump -/

/-- What is left of a chunk that an input pump writes. -/
def Feeding.left : Feeding → Bytes
  | writing left => left
  | closing | ended _ => []

theorem Feeding.left_take (source : Source) : (take source).1.left = source.take.1 := by
  unfold take
  by_cases nothing : source.take.1 = []
  · rw [if_pos nothing, nothing]
    rfl
  · rw [if_neg nothing]
    rfl

/-- What an input pump takes is gone from its source. -/
theorem Feeding.content_step (stage : Feeding) (write : WriteReply) (close : Except Fault Unit)
    (source : Source) :
    (((stage.deed? write source).map Deed.feeds).toList.filterMap Deed.taken?).flatten ++
      (stage.step write close source).2.content = source.content := by
  cases stage with
  | writing left =>
      cases left with
      | nil => simpa [deed?, Deed.taken?, step, take] using source.take_append_content
      | cons first rest => rfl
  | closing | ended fault => rfl

/-- A write that does not fail leaves what it has not taken. -/
theorem Feeding.exists_written {asked : Bytes} {reply : WriteReply}
    (fine : (Deed.feeds (.writes asked reply)).isFine = true) :
    ∃ rest, written asked reply = .writing rest ∧
      asked = (FeedingDeed.writes asked reply).accepted ++ rest := by
  cases reply with
  | taken count => exact ⟨asked.drop count, rfl, (List.take_append_drop count asked).symm⟩
  | failed errno =>
      obtain rfl : errno = .interrupted := of_decide_eq_true fine
      exact ⟨asked, written_interrupted asked, rfl⟩

/-- The chunk that an output pump has read and not yet written. -/
def Draining.inHand : Draining → List Bytes
  | holding chunk => [chunk]
  | reading | flushing | ended _ => []

/-- Whether these are the answers to reading a stream until it ends. -/
def IsReadToEnd (replies : List ReadReply) : Prop :=
  ∃ before, replies = before ++ [.ended] ∧ ∀ reply ∈ before, reply.isLast = false

/-- Whether an output pump that is at this has been answered like that: it goes on until its stream
has ended. -/
def Draining.HasRead (replies : List ReadReply) : Draining → Prop
  | reading | holding _ => ∀ reply ∈ replies, reply.isLast = false
  | flushing | ended _ => IsReadToEnd replies

/-- Whether what a pump of a stream has done accounts for what it is at: what it has taken in and
not passed on it has in hand. -/
def Work.AccountsFor (stream : StandardStream) (deeds : List Deed) : Work → Prop
  | feeding stage =>
      stream = .input ∧
        (deeds.filterMap Deed.taken?).flatten = deeds.flatMap Deed.delivered ++ stage.left
  | draining stage =>
      stream ≠ .input ∧ stage.HasRead (deeds.filterMap Deed.reply?) ∧
        (deeds.filterMap Deed.reply?).filterMap ReadReply.chunk? =
          deeds.filterMap Deed.put? ++ stage.inHand

/-- Whether an input pump has found that there is nothing more to be taken from the source, as long
as no write fails. -/
def Work.hasFoundEnd : Work → Bool
  | feeding .closing | feeding (.ended _) => true
  | _ => false

namespace Work

theorem accountsFor_begin (stream : StandardStream) : (begin stream).AccountsFor stream [] := by
  cases stream with
  | input => exact ⟨rfl, rfl⟩
  | output | error => exact ⟨nofun, by simp [Draining.HasRead], rfl⟩

theorem accountsFor_done {work : Work} {stream : StandardStream} {deeds : List Deed}
    {fault : Option Fault} (accounts : work.AccountsFor stream deeds)
    (ended : work.ending? = some fault) : work.done.AccountsFor stream deeds := by
  cases work with
  | feeding stage => cases stage <;> simp_all [ending?, done, AccountsFor, Feeding.left]
  | draining stage =>
      cases stage <;> simp_all [ending?, done, AccountsFor, Draining.HasRead, Draining.inHand]

theorem hasFoundEnd_done {work : Work} {fault : Option Fault}
    (ended : work.ending? = some fault) : work.done.hasFoundEnd = work.hasFoundEnd := by
  cases work with
  | feeding stage => cases stage <;> first | contradiction | rfl
  | draining stage => rfl

theorem done_of_isDone {work : Work} (ended : work.isDone = true) : work.done = work := by
  cases work with
  | feeding stage => cases stage <;> simp_all [isDone, ending?, done]
  | draining stage => cases stage <;> simp_all [isDone, ending?, done]

section

variable {kind : SinkKind σ} {answers : Answers} {stream : StandardStream} {shared : Shared σ}
  {work : Work} {deeds : List Deed} {held : σ → Bytes}

/-- A pump that has ended does nothing more. -/
theorem deed?_of_ended {fault : Option Fault} (ended : work.ending? = some fault) :
    work.deed? kind answers stream shared = none := by
  cases work with
  | feeding stage => cases stage <;> first | contradiction | rfl
  | draining stage => cases stage <;> first | contradiction | rfl

theorem isOf_deed? (accounts : work.AccountsFor stream deeds) {deed : Deed}
    (done : work.deed? kind answers stream shared = some deed) : deed.IsOf stream := by
  cases work with
  | feeding stage =>
      obtain ⟨_, -, rfl⟩ := Option.map_eq_some_iff.mp done
      exact accounts.1
  | draining stage =>
      cases stage with
      | reading =>
          obtain rfl := Option.some.inj done
          exact accounts.1
      | holding chunk =>
          obtain rfl := Option.some.inj done
          exact ⟨accounts.1, rfl⟩
      | flushing | ended fault => contradiction

/-- What an input pump takes is gone from the source. -/
theorem content_step (work : Work) :
    ((work.deed? kind answers stream shared).toList.filterMap Deed.taken?).flatten ++
      (work.step kind answers stream shared).2.content = shared.content := by
  cases work with
  | draining stage =>
      have same : ((draining stage).step kind answers stream shared).2.content = shared.content :=
        Shared.content_setSink ..
      rw [same]
      cases stage <;> rfl
  | feeding stage =>
      have whole := stage.content_step answers.write answers.close
        (shared.source.getD { remaining := [] })
      have left : ((feeding stage).step kind answers stream shared).2.content =
          (stage.step answers.write answers.close
            (shared.source.getD { remaining := [] })).2.content := by
        refine Shared.content_of_source fun none => ?_
        rw [none] at whole ⊢
        exact (List.append_eq_nil_iff.mp whole).2
      rw [left]
      exact whole

/-- A chunk that is taken leaves an output pump to read on. -/
theorem step_holding {chunk : Bytes}
    (fine : (draining (.holding chunk)).GoesWell kind answers stream shared) :
    Draining.step kind answers.read (shared.sink stream) (.holding chunk) =
      (.reading, (kind.write chunk (shared.sink stream)).2) :=
  Draining.write_of_taken (fine _ rfl)

/-- What is written for a stream is held by its sink behind what that held before, and by no
other sink. -/
theorem held_step (keeps : kind.Keeps held) (accounts : work.AccountsFor stream deeds)
    (fine : work.GoesWell kind answers stream shared)
    {other : StandardStream} (output : other ≠ .input) :
    held ((work.step kind answers stream shared).2.sink other) =
      held (shared.sink other) ++
        ((work.deed? kind answers stream shared).toList.filterMap
          (Deed.putTo? shared other)).flatten := by
  cases work with
  | feeding stage =>
      have same : ((feeding stage).step kind answers stream shared).2.sink other =
          shared.sink other := by
        cases other <;> rfl
      rw [same]
      cases stage with
      | writing left => cases left <;> simp [deed?, Feeding.deed?, Deed.putTo?]
      | closing | ended fault => simp [deed?, Feeding.deed?]
  | draining stage =>
      have same : ((draining stage).step kind answers stream shared).2 =
          shared.setSink stream (stage.step kind answers.read (shared.sink stream)).2 := rfl
      rw [same, Shared.sink_setSink accounts.1 output]
      cases leads : shared.leadsTo stream other with
      | false =>
          rw [if_neg Bool.false_ne_true]
          cases stage <;> simp [deed?, Deed.putTo?, leads]
      | true =>
          rw [if_pos rfl, ← Shared.sink_eq_of_leadsTo leads]
          cases stage with
          | reading => simp [deed?, Deed.putTo?, Draining.step]
          | holding chunk =>
              rw [step_holding fine, keeps.taken _ _ (fine _ rfl)]
              simp [deed?, Deed.putTo?, leads]
          | flushing => simpa [deed?, Draining.step, Draining.flush] using keeps.flushed _
          | ended fault => simp [deed?, Draining.step]

/-- What an input pump has in hand or takes is what it delivers or has in hand then. -/
theorem left_step {stage : Feeding} (going : (feeding stage).ending? = none)
    (fine : (feeding stage).GoesWell kind answers stream shared) :
    let deeds := ((feeding stage).deed? kind answers stream shared).toList
    stage.left ++ (deeds.filterMap Deed.taken?).flatten =
      deeds.flatMap Deed.delivered ++
        (stage.step answers.write answers.close
          (shared.source.getD { remaining := [] })).1.left := by
  intro deeds
  cases stage with
  | writing left =>
      cases left with
      | nil =>
          change _ = [] ++ (Feeding.take _).1.left
          rw [Feeding.left_take]
          simp [deeds, deed?, Feeding.deed?, Deed.taken?, Feeding.left]
      | cons first rest =>
          obtain ⟨left, written, whole⟩ := Feeding.exists_written (fine _ rfl)
          rw [Feeding.step, written]
          change (first :: rest) ++ [] = (_ ++ []) ++ left
          rw [List.append_nil, List.append_nil]
          exact whole
  | closing =>
      cases closed : answers.close <;>
        simp [deeds, deed?, Feeding.deed?, Feeding.step, Feeding.closed, Feeding.left]
  | ended fault => contradiction

/-- What an output pump has in hand or reads is what it writes or has in hand then. -/
theorem inHand_step {stage : Draining}
    (fine : (draining stage).GoesWell kind answers stream shared) :
    let deeds := ((draining stage).deed? kind answers stream shared).toList
    stage.inHand ++ (deeds.filterMap Deed.reply?).filterMap ReadReply.chunk? =
      deeds.filterMap Deed.put? ++
        (stage.step kind answers.read (shared.sink stream)).1.inHand := by
  intro deeds
  cases stage with
  | reading =>
      simp only [deeds, deed?, Draining.step]
      cases answers.read <;> rfl
  | holding chunk =>
      rw [step_holding fine]
      rfl
  | flushing | ended fault => rfl

/-- An output pump reads until its stream has ended. -/
theorem hasRead_step {stage : Draining} {replies : List ReadReply}
    (hasRead : stage.HasRead replies)
    (fine : (draining stage).GoesWell kind answers stream shared) :
    (stage.step kind answers.read (shared.sink stream)).1.HasRead
      (replies ++ ((draining stage).deed? kind answers stream shared).toList.filterMap
        Deed.reply?) := by
  cases stage with
  | reading =>
      have fine := fine _ rfl
      simp only [deed?, Draining.step]
      cases reply : answers.read with
      | failed errno =>
          rw [reply] at fine
          contradiction
      | ended => exact ⟨replies, rfl, hasRead⟩
      | data chunk | interrupted =>
          intro other mem
          rcases List.mem_append.mp mem with before | now
          · exact hasRead other before
          · rw [List.mem_singleton.mp now]
            rfl
  | holding chunk =>
      rw [step_holding fine]
      exact (List.append_nil replies).symm ▸ hasRead
  | flushing | ended fault => exact (List.append_nil replies).symm ▸ hasRead

/-- What a pump does next is accounted for, unless it fails. -/
theorem accountsFor_step (accounts : work.AccountsFor stream deeds)
    (going : work.ending? = none)
    (fine : work.GoesWell kind answers stream shared) :
    (work.step kind answers stream shared).1.AccountsFor stream
      (deeds ++ (work.deed? kind answers stream shared).toList) := by
  cases work with
  | feeding stage =>
      obtain ⟨input, accounts⟩ := accounts
      refine ⟨input, ?_⟩
      rw [List.filterMap_append, List.flatten_append, List.flatMap_append, accounts,
        List.append_assoc, List.append_assoc, left_step going fine]
      rfl
  | draining stage =>
      obtain ⟨output, hasRead, accounts⟩ := accounts
      refine ⟨output, ?_⟩
      rw [List.filterMap_append, List.filterMap_append, List.filterMap_append, accounts,
        List.append_assoc, List.append_assoc, inHand_step fine]
      exact ⟨hasRead_step hasRead fine, rfl⟩

/-- An input pump finds the end of the source when there is nothing more to be taken. -/
theorem content_of_hasFoundEnd (before : work.hasFoundEnd = true → shared.content = [])
    (fine : work.GoesWell kind answers stream shared)
    (found : (work.step kind answers stream shared).1.hasFoundEnd = true) :
    shared.content = [] := by
  cases work with
  | draining stage => contradiction
  | feeding stage =>
      cases stage with
      | closing | ended fault => exact before rfl
      | writing left =>
          cases left with
          | nil =>
              change (feeding (Feeding.take _).1).hasFoundEnd = true at found
              by_cases nothing : (shared.source.getD { remaining := [] }).take.1 = []
              · exact Source.content_of_take_eq_nil nothing
              · rw [Feeding.take, if_neg nothing] at found
                contradiction
          | cons first rest =>
              obtain ⟨left, written, -⟩ := Feeding.exists_written (fine _ rfl)
              change (feeding (Feeding.written _ answers.write)).hasFoundEnd = true at found
              rw [written] at found
              contradiction

theorem isNone_error_step :
    (work.step kind answers stream shared).2.error.isNone = shared.error.isNone := by
  cases work with
  | feeding stage => rfl
  | draining stage => exact shared.isNone_error_setSink stream _

/-- An input pump that has ended has delivered what it has taken. -/
theorem delivered_of_isDone (accounts : work.AccountsFor stream deeds) (input : stream = .input)
    (ended : work.isDone = true) :
    deeds.flatMap Deed.delivered = (deeds.filterMap Deed.taken?).flatten ∧
      work.hasFoundEnd = true := by
  cases work with
  | draining stage => exact absurd input accounts.1
  | feeding stage =>
      cases stage with
      | writing left | closing => contradiction
      | ended fault => exact ⟨(accounts.2.trans (List.append_nil _)).symm, rfl⟩

/-- An output pump that has ended has written what it has read, which is all. -/
theorem puts_of_isDone (accounts : work.AccountsFor stream deeds) (output : stream ≠ .input)
    (ended : work.isDone = true) :
    IsReadToEnd (deeds.filterMap Deed.reply?) ∧
      deeds.filterMap Deed.put? = (deeds.filterMap Deed.reply?).filterMap ReadReply.chunk? := by
  cases work with
  | feeding stage => exact absurd accounts.1 output
  | draining stage =>
      cases stage with
      | reading | holding chunk | flushing => contradiction
      | ended fault => exact ⟨accounts.2.1, (accounts.2.2.trans (List.append_nil _)).symm⟩

end

end Work

end Overseer.Pump
