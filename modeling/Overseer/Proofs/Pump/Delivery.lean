import Mathlib.Data.Set.Finite.Lattice
import Mathlib.Order.Bounds.Basic
import Overseer.Pump.Step

/-!
# What an input pump delivers

An input pump takes one chunk after the other from its source and writes each of them bit by bit.
Whatever its writes are answered, as long as they take something and are not interrupted for ever,
it comes to an end, and the process has been given the beginning of the source.  That is the whole
source unless a write has failed, and such a write is the last thing that the pump does.
-/

namespace Overseer.Pump

/-! ## Sources -/

namespace Source

/-- What a source gives when it is read to its end. -/
def content (source : Source) : Bytes :=
  if source.failed then [] else source.remaining

theorem take_append_content (source : Source) :
    source.take.1 ++ source.take.2.content = source.content := by
  unfold take content
  split
  · simp
  · simp

theorem content_of_take_eq_nil {source : Source} (nothing : source.take.1 = []) :
    source.content = [] := by
  unfold take at nothing
  unfold content
  split
  · rfl
  · next good =>
      rw [if_neg good, List.take_eq_nil_iff] at nothing
      exact nothing.resolve_left (by decide)

end Source

/-! ## Steps -/

/-- One step of an input pump, given what is answered if it writes or closes its stream. -/
def Feeding.step (write : WriteReply) (close : Except Fault Unit) (source : Source) :
    Feeding → Feeding × Source
  | writing [] => take source
  | writing (first :: rest) => (written (first :: rest) write, source)
  | closing => (closed close, source)
  | ended fault => (ended fault, source)

/-- What an input pump does with its source and with the stream it writes to. -/
inductive FeedingDeed
  /-- It takes a chunk, or finds that there is none. -/
  | takes (chunk : Bytes)
  /-- It asks the stream to take bytes, which is answered. -/
  | writes (asked : Bytes) (reply : WriteReply)
deriving DecidableEq

namespace FeedingDeed

/-- The answer to a write. -/
def reply? : FeedingDeed → Option WriteReply
  | takes _ => none
  | writes _ reply => some reply

/-- The bytes that the stream took. -/
def accepted : FeedingDeed → Bytes
  | writes asked (.taken count) => asked.take count
  | _ => []

@[simp]
theorem accepted_takes (chunk : Bytes) : (takes chunk).accepted = [] :=
  rfl

@[simp]
theorem accepted_taken (asked : Bytes) (count : Nat) :
    (writes asked (.taken count)).accepted = asked.take count :=
  rfl

@[simp]
theorem accepted_failed (asked : Bytes) (errno : Errno) :
    (writes asked (.failed errno)).accepted = [] :=
  rfl

end FeedingDeed

/-- What the next step of an input pump does. -/
def Feeding.deed? (write : WriteReply) (source : Source) : Feeding → Option FeedingDeed
  | writing [] => some (.takes source.take.1)
  | writing (first :: rest) => some (.writes (first :: rest) write)
  | closing | ended _ => none

/-- An input pump under way. -/
structure Feeder where
  /-- Where it is. -/
  stage : Feeding := .writing []
  /-- The source, without what was taken from it. -/
  source : Source
  /-- What it has done, in order. -/
  deeds : List FeedingDeed := []

namespace Feeder

/-- What the writes were answered, in order. -/
def replies (p : Feeder) : List WriteReply :=
  p.deeds.filterMap FeedingDeed.reply?

/-- The bytes that the stream took, in order. -/
def delivered (p : Feeder) : Bytes :=
  p.deeds.flatMap FeedingDeed.accepted

/-- The pump one step later. -/
def step (write : WriteReply) (close : Except Fault Unit) (p : Feeder) : Feeder :=
  { stage := (p.stage.step write close p.source).1
    source := (p.stage.step write close p.source).2
    deeds := p.deeds ++ (p.stage.deed? write p.source).toList }

/-- The pump after some steps.  The writes are answered one after the other. -/
def run (outcomes : Nat → WriteReply) (close : Except Fault Unit) (source : Source) : Nat → Feeder
  | 0 => { source }
  | n + 1 =>
      let p := run outcomes close source n
      p.step (outcomes p.replies.length) close

section

variable {p : Feeder} {write : WriteReply} {close : Except Fault Unit} {left : Bytes}

theorem step_of_empty (empty : p.stage = .writing []) :
    p.step write close =
      { stage := (Feeding.take p.source).1, source := p.source.take.2,
        deeds := p.deeds ++ [.takes p.source.take.1] } := by
  simp [step, empty, Feeding.step, Feeding.take, Feeding.deed?]

theorem step_of_left (stage : p.stage = .writing left) (nonempty : left ≠ []) :
    p.step write close =
      { stage := .written left write, source := p.source,
        deeds := p.deeds ++ [.writes left write] } := by
  obtain ⟨first, rest, rfl⟩ := List.exists_cons_of_ne_nil nonempty
  simp [step, stage, Feeding.step, Feeding.deed?]

theorem step_of_closing (closing : p.stage = .closing) :
    p.step write close = { p with stage := .closed close } := by
  simp [step, closing, Feeding.step, Feeding.deed?]

theorem step_of_ended {fault : Option Fault} (ended : p.stage = .ended fault) :
    p.step write close = p := by
  obtain ⟨stage, source, deeds⟩ := p
  obtain rfl : stage = .ended fault := ended
  simp [step, Feeding.step, Feeding.deed?]

end

/-! ## The pump comes to an end -/

/-- How much is left to be done, interruptions apart. -/
def toDo (p : Feeder) : Nat :=
  match p.stage with
  | .writing left => 2 * (left.length + p.source.content.length) + if left = [] then 3 else 2
  | .closing => 1
  | .ended _ => 0

section

variable {p : Feeder} {write : WriteReply} {close : Except Fault Unit}

/-- What the next write is answered, if the next step is a write. -/
theorem replies_step :
    (p.step write close).replies =
      p.replies ++ ((p.stage.deed? write p.source).bind FeedingDeed.reply?).toList := by
  unfold replies step
  rw [List.filterMap_append]
  cases p.stage.deed? write p.source with
  | none => simp
  | some deed => cases answered : deed.reply? <;> simp [answered]

theorem length_replies_le_step (p : Feeder) (write : WriteReply) (close : Except Fault Unit) :
    p.replies.length ≤ (p.step write close).replies.length := by
  rw [replies_step, List.length_append]
  exact Nat.le_add_right _ _

/-- Taking a chunk leaves less to be done: the chunk has to be written, but not taken any more. -/
theorem toDo_take (stage : p.stage = .writing []) : (p.step write close).toDo < p.toDo := by
  have parts := congrArg List.length p.source.take_append_content
  rw [List.length_append] at parts
  rw [step_of_empty stage]
  by_cases nothing : p.source.take.1 = []
  · simp [toDo, stage, Feeding.take, nothing]
  · simp only [toDo, stage, Feeding.take, if_neg nothing, List.length_nil, ↓reduceIte]
    omega

/-- A write leaves less to be done, unless it is interrupted. -/
theorem toDo_write {left : Bytes} (stage : p.stage = .writing left) (nonempty : left ≠ [])
    (accepting : write ≠ .taken 0) (earnest : write ≠ .failed .interrupted) :
    (p.step write close).toDo < p.toDo := by
  have positive := List.length_pos_iff.mpr nonempty
  rw [step_of_left stage nonempty]
  cases write with
  | taken count =>
      have some : count ≠ 0 := fun none => accepting (none ▸ rfl)
      simp only [toDo, stage, Feeding.written, List.length_drop, if_neg nonempty]
      split <;> omega
  | failed errno =>
      have other : errno ≠ .interrupted := fun same => earnest (same ▸ rfl)
      by_cases unread : errno = .brokenPipe
      · simp only [toDo, stage, Feeding.written, if_neg other, if_pos unread]
        omega
      · simp only [toDo, stage, Feeding.written, if_neg other, if_neg unread]
        omega

/-- A step leaves less to be done, unless it is an interrupted write. -/
theorem toDo_step (going : ∀ fault, p.stage ≠ .ended fault) (accepting : write ≠ .taken 0)
    (close : Except Fault Unit) :
    (p.step write close).toDo < p.toDo ∨
      write = .failed .interrupted ∧ (p.step write close).toDo = p.toDo ∧
        (p.step write close).replies.length = p.replies.length + 1 := by
  cases stage : p.stage with
  | writing left =>
      by_cases empty : left = []
      · subst empty
        exact .inl (toDo_take stage)
      · by_cases interrupted : write = .failed .interrupted
        · subst interrupted
          rw [step_of_left stage empty, Feeding.written_interrupted]
          exact .inr ⟨rfl, by simp [toDo, stage], by simp [replies, FeedingDeed.reply?]⟩
        · exact .inl (toDo_write stage empty accepting interrupted)
  | closing =>
      left
      rw [step_of_closing stage]
      cases close <;> simp [toDo, stage, Feeding.closed]
  | ended fault => exact absurd stage (going fault)

end

section

variable {outcomes : Nat → WriteReply} {close : Except Fault Unit} {source : Source}

theorem run_succ (n : Nat) :
    run outcomes close source (n + 1) =
      (run outcomes close source n).step
        (outcomes (run outcomes close source n).replies.length) close :=
  rfl

/-- Once it has ended the pump stays as it is. -/
theorem run_of_ended {n m : Nat} {fault : Option Fault}
    (ended : (run outcomes close source n).stage = .ended fault) (later : n ≤ m) :
    run outcomes close source m = run outcomes close source n := by
  induction m, later using Nat.le_induction with
  | base => rfl
  | succ m later inductionHypothesis =>
      rw [run, inductionHypothesis]
      exact step_of_ended ended

theorem exists_ended (accepting : ∀ i, outcomes i ≠ .taken 0)
    (patient : {i | outcomes i = .failed .interrupted}.Finite) (close : Except Fault Unit)
    (source : Source) :
    ∃ n fault, (run outcomes close source n).stage = .ended fault := by
  obtain ⟨bound, last⟩ := patient.bddAbove
  -- What is to be done does not get less by an interrupted write, but the writes that may be
  -- interrupted do.
  suffices onward : ∀ measure n, (run outcomes close source n).toDo +
      (bound + 1 - (run outcomes close source n).replies.length) = measure →
      ∃ m fault, (run outcomes close source m).stage = .ended fault from onward _ 0 rfl
  intro measure
  induction measure using Nat.strongRecOn with
  | ind measure inductionHypothesis =>
    intro n measured
    by_cases ended : ∃ fault, (run outcomes close source n).stage = .ended fault
    · exact ⟨n, ended⟩
    · refine inductionHypothesis _ ?_ (n + 1) rfl
      rw [run_succ]
      have grows := length_replies_le_step (run outcomes close source n)
        (outcomes (run outcomes close source n).replies.length) close
      rcases toDo_step (not_exists.mp ended)
          (accepting (run outcomes close source n).replies.length) close with
        less | ⟨interrupted, same, longer⟩
      · omega
      · have early : (run outcomes close source n).replies.length ≤ bound := last interrupted
        omega

end

/-! ## What was delivered -/

/-- No write has failed for good. -/
def Unfailed (p : Feeder) : Prop :=
  ∀ errno, .failed errno ∈ p.replies → errno = .interrupted

/-- How writing has ended, given what there was to deliver: all of it was taken, or some was left
and the last thing that was done is a write that failed. -/
def HasWritten (content : Bytes) (p : Feeder) : Option Errno → Prop
  | none => p.Unfailed ∧ p.delivered = content
  | some errno =>
      errno ≠ .interrupted ∧ ∃ before asked, p.deeds = before ++ [.writes asked (.failed errno)] ∧
        asked ≠ [] ∧ p.delivered ++ asked ++ p.source.content = content ∧
        ∀ other, .failed other ∈ before.filterMap FeedingDeed.reply? → other = .interrupted

/-- The end that a pump comes to when its writing has ended somehow. -/
def ending (close : Except Fault Unit) : Option Errno → Feeding
  | none => .closed close
  | some errno => if errno = .brokenPipe then .closed close else .ended (some (writeFault errno))

/-- What holds of a pump, given what there was to deliver. -/
def Sound (content : Bytes) (close : Except Fault Unit) (p : Feeder) : Prop :=
  match p.stage with
  | .writing left => p.Unfailed ∧ p.delivered ++ left ++ p.source.content = content
  | .closing => p.HasWritten content none ∨ p.HasWritten content (some .brokenPipe)
  | .ended fault => ∃ failing, p.HasWritten content failing ∧ ending close failing = .ended fault

section

variable {p : Feeder} {write : WriteReply} {close : Except Fault Unit} {content left : Bytes}
  {errno : Errno}

theorem delivered_append (deed : FeedingDeed) (stage : Feeding) (source : Source) :
    delivered { stage, source, deeds := p.deeds ++ [deed] } = p.delivered ++ deed.accepted := by
  simp [delivered]

theorem Unfailed.append (unfailed : p.Unfailed) (deed : FeedingDeed)
    (fine : ∀ errno, deed.reply? = some (.failed errno) → errno = .interrupted) (stage : Feeding)
    (source : Source) : Unfailed { stage, source, deeds := p.deeds ++ [deed] } := by
  intro errno failed
  rw [replies, List.filterMap_append, List.mem_append] at failed
  rcases failed with before | now
  · exact unfailed errno before
  · exact fine errno (by simpa [eq_comm] using now)

/-- A write that fails for good ends the writing. -/
theorem hasWritten_of_failed (unfailed : p.Unfailed) (nonempty : left ≠ [])
    (whole : p.delivered ++ left ++ p.source.content = content) (stage : Feeding)
    (earnest : errno ≠ .interrupted) :
    HasWritten content
      { p with stage, deeds := p.deeds ++ [.writes left (.failed errno)] } (some errno) := by
  refine ⟨earnest, p.deeds, left, rfl, nonempty, ?_, unfailed⟩
  rw [delivered_append, FeedingDeed.accepted_failed, List.append_nil]
  exact whole

/-- What was taken from the source is still to be delivered. -/
theorem sound_take (stage : p.stage = .writing []) (unfailed : p.Unfailed)
    (whole : p.delivered ++ p.source.content = content) :
    (p.step write close).Sound content close := by
  rw [step_of_empty stage, Feeding.take]
  have unfailed' := unfailed.append (.takes p.source.take.1) (fun _ => nofun)
  by_cases nothing : p.source.take.1 = []
  · rw [if_pos nothing]
    refine .inl ⟨unfailed' _ _, ?_⟩
    rw [delivered_append, FeedingDeed.accepted_takes, ← whole,
      Source.content_of_take_eq_nil nothing]
  · rw [if_neg nothing]
    refine ⟨unfailed' _ _, ?_⟩
    rw [delivered_append, FeedingDeed.accepted_takes, List.append_nil, List.append_assoc,
      p.source.take_append_content, whole]

/-- What a write has not delivered is left. -/
theorem sound_write (stage : p.stage = .writing left) (nonempty : left ≠ [])
    (unfailed : p.Unfailed) (whole : p.delivered ++ left ++ p.source.content = content) :
    (p.step write close).Sound content close := by
  rw [step_of_left stage nonempty]
  cases write with
  | taken count =>
      refine ⟨unfailed.append _ (by simp [FeedingDeed.reply?]) _ _, ?_⟩
      rw [delivered_append, FeedingDeed.accepted_taken, List.append_assoc p.delivered,
        List.take_append_drop, whole]
  | failed errno =>
      by_cases interrupted : errno = .interrupted
      · subst interrupted
        rw [Feeding.written_interrupted]
        refine ⟨unfailed.append _ ?_ _ _, ?_⟩
        · intro other answered
          exact (WriteReply.failed.inj (Option.some.inj answered)).symm
        · rw [delivered_append, FeedingDeed.accepted_failed, List.append_nil]
          exact whole
      · have written := fun stage => hasWritten_of_failed unfailed nonempty whole stage interrupted
        by_cases unread : errno = .brokenPipe
        · subst unread
          rw [Feeding.written_unread]
          exact .inr (written _)
        · rw [Feeding.written_failed left interrupted unread]
          exact ⟨some errno, written _, if_neg unread⟩

theorem sound_step (sound : p.Sound content close) : (p.step write close).Sound content close := by
  cases stage : p.stage with
  | writing left =>
      rw [Sound, stage] at sound
      obtain ⟨unfailed, whole⟩ := sound
      by_cases empty : left = []
      · subst empty
        rw [List.append_nil] at whole
        exact sound_take stage unfailed whole
      · exact sound_write stage empty unfailed whole
  | closing =>
      rw [Sound, stage] at sound
      rw [step_of_closing stage]
      have closed : ∃ failing, p.HasWritten content failing ∧
          ending close failing = .closed close := by
        rcases sound with all | unread
        · exact ⟨none, all, rfl⟩
        · exact ⟨some .brokenPipe, unread, by simp [ending]⟩
      cases close <;> exact closed
  | ended fault =>
      rw [step_of_ended stage]
      exact sound

theorem sound_run (outcomes : Nat → WriteReply) (close : Except Fault Unit) (source : Source)
    (n : Nat) : (run outcomes close source n).Sound source.content close := by
  induction n with
  | zero => exact ⟨nofun, rfl⟩
  | succ n inductionHypothesis => exact sound_step inductionHypothesis

end

end Feeder

/-! ## Feeding in one go -/

/-- Feed a process what is left of a chunk, and then from a source. -/
def feedOn (replies : List WriteReply) (left : Bytes) (source : Source) : Fed :=
  let written := writeAll replies left
  match written.ending with
  | .unread => { delivered := written.taken, source, fault := none }
  | .failed errno => { delivered := written.taken, source, fault := some (writeFault errno) }
  | .complete =>
      let later := feed written.replies source
      { later with delivered := written.taken ++ later.delivered }

section

variable {replies : List WriteReply} {source : Source} {left : Bytes} {errno : Errno}

@[simp]
theorem feedOn_nil (replies : List WriteReply) (source : Source) :
    feedOn replies [] source = feed replies source := by
  simp [feedOn]

theorem feed_of_empty (nothing : source.take.1 = []) :
    feed replies source = { delivered := [], source := source.take.2, fault := none } := by
  rw [feed, dif_pos nothing]

theorem feed_of_chunk (chunk : source.take.1 ≠ []) :
    feed replies source = feedOn replies source.take.1 source.take.2 := by
  rw [feed, dif_neg chunk]
  rfl

theorem feedOn_taken (count : Nat) (nonempty : left ≠ []) :
    feedOn (.taken count :: replies) left source =
      { feedOn replies (left.drop count) source with
        delivered := left.take count ++ (feedOn replies (left.drop count) source).delivered } := by
  unfold feedOn
  rw [writeAll_taken count replies nonempty]
  cases ending : (writeAll replies (left.drop count)).ending <;> simp [ending]

theorem feedOn_interrupted (nonempty : left ≠ []) :
    feedOn (.failed .interrupted :: replies) left source = feedOn replies left source := by
  unfold feedOn
  rw [writeAll_interrupted replies nonempty]

theorem feedOn_failed (nonempty : left ≠ []) (earnest : errno ≠ .interrupted) :
    feedOn (.failed errno :: replies) left source =
      { delivered := [], source
        fault := if errno = .brokenPipe then none else some (writeFault errno) } := by
  unfold feedOn
  rw [writeAll_failed earnest replies nonempty]
  by_cases unread : errno = .brokenPipe
  · simp [unread]
  · simp [unread]

end

/-- The end of a pump, given what is answered if it closes its stream. -/
def Fed.end (close : Except Fault Unit) (fed : Fed) : Feeding :=
  match fed.fault with
  | some fault => .ended (some fault)
  | none => .closed close

theorem Fed.ended_conclude {τ : Type} (fed : Fed) (close : τ → Except Fault Unit × τ) (stream : τ) :
    .ended (fed.conclude close stream).1 = fed.end (close stream).1 := by
  unfold conclude Fed.end
  cases fed.fault with
  | some fault => rfl
  | none =>
      cases close stream with
      | mk reply closed => cases reply <;> rfl

namespace Feeder

/-- What a pump will have delivered when it has ended, what will be left of its source, and how it
will have ended, if its writes are answered like that. -/
def comesTo (close : Except Fault Unit) (replies : List WriteReply) (p : Feeder) :
    Bytes × Source × Feeding :=
  match p.stage with
  | .writing left =>
      let fed := feedOn replies left p.source
      (p.delivered ++ fed.delivered, fed.source, fed.end close)
  | .closing => (p.delivered, p.source, .closed close)
  | .ended fault => (p.delivered, p.source, .ended fault)

section

variable {p : Feeder} {write : WriteReply} {close : Except Fault Unit} {replies : List WriteReply}

/-- A step uses up the answer to its write, if it is one. -/
theorem comesTo_step :
    (p.step write close).comesTo close replies =
      p.comesTo close
        (((p.stage.deed? write p.source).bind FeedingDeed.reply?).toList ++ replies) := by
  cases stage : p.stage with
  | writing left =>
      by_cases empty : left = []
      · subst empty
        rw [step_of_empty stage]
        by_cases nothing : p.source.take.1 = []
        · simp [comesTo, stage, Feeding.take, nothing, Feeding.deed?, FeedingDeed.reply?, delivered,
            feed_of_empty nothing, Fed.end]
        · simp [comesTo, stage, Feeding.take, nothing, Feeding.deed?, FeedingDeed.reply?, delivered,
            feed_of_chunk nothing]
      · rw [step_of_left stage empty]
        obtain ⟨first, rest, rfl⟩ := List.exists_cons_of_ne_nil empty
        cases write with
        | taken count =>
            simp [comesTo, stage, Feeding.deed?, FeedingDeed.reply?, delivered,
              feedOn_taken count empty, Fed.end]
        | failed errno =>
            by_cases interrupted : errno = .interrupted
            · subst interrupted
              simp [comesTo, stage, Feeding.deed?, FeedingDeed.reply?, delivered,
                feedOn_interrupted empty]
            · by_cases unread : errno = .brokenPipe
              · subst unread
                simp [comesTo, stage, Feeding.deed?, FeedingDeed.reply?, delivered,
                  feedOn_failed empty interrupted, Fed.end]
              · rw [Feeding.written_failed _ interrupted unread]
                simp [comesTo, stage, Feeding.deed?, FeedingDeed.reply?, delivered,
                  feedOn_failed empty interrupted, Fed.end, unread]
  | closing =>
      rw [step_of_closing stage]
      cases close <;> simp [comesTo, stage, Feeding.closed, delivered]
  | ended fault =>
      rw [step_of_ended stage]
      simp [Feeding.deed?]

/-- What a pump comes to was decided from the beginning. -/
theorem comesTo_run (outcomes : Nat → WriteReply) (close : Except Fault Unit) (source : Source)
    (n : Nat) (replies : List WriteReply) :
    (run outcomes close source n).comesTo close replies =
      comesTo close ((run outcomes close source n).replies ++ replies) { source } := by
  induction n generalizing replies with
  | zero => rfl
  | succ n inductionHypothesis =>
      rw [run_succ, comesTo_step, inductionHypothesis, replies_step, List.append_assoc]

theorem comesTo_of_ended {fault : Option Fault} (ended : p.stage = .ended fault) :
    p.comesTo close replies = (p.delivered, p.source, .ended fault) := by
  rw [comesTo, ended]

end

/-! ## The result -/

section

variable {p : Feeder} {content : Bytes}

theorem isPrefix_of_hasWritten {failing : Option Errno} (written : p.HasWritten content failing) :
    p.delivered <+: content := by
  cases failing with
  | none => exact written.2 ▸ List.prefix_refl _
  | some errno =>
      obtain ⟨-, before, asked, -, -, whole, -⟩ := written
      exact ⟨asked ++ p.source.content, by rw [← List.append_assoc, whole]⟩

/-- A write that has failed is among the answers. -/
theorem mem_replies_of_hasWritten {errno : Errno} (written : p.HasWritten content (some errno)) :
    .failed errno ∈ p.replies := by
  obtain ⟨-, before, asked, last, -⟩ := written
  simp [replies, last, FeedingDeed.reply?]

/-- No write fails for good but the last. -/
theorem eq_of_mem_replies {failing : Option Errno} {errno : Errno}
    (written : p.HasWritten content failing) (failed : .failed errno ∈ p.replies)
    (earnest : errno ≠ .interrupted) : failing = some errno := by
  cases failing with
  | none => exact absurd (written.1 errno failed) earnest
  | some other =>
      obtain ⟨-, before, asked, last, -, -, passing⟩ := written
      rw [replies, last, List.filterMap_append, List.mem_append] at failed
      rcases failed with early | now
      · exact absurd (passing errno early) earnest
      · simpa [FeedingDeed.reply?, eq_comm] using now

theorem delivered_eq_iff {failing : Option Errno} (written : p.HasWritten content failing) :
    p.delivered = content ↔ p.Unfailed := by
  cases failing with
  | none => exact iff_of_true written.2 written.1
  | some errno =>
      have failed := mem_replies_of_hasWritten written
      obtain ⟨earnest, before, asked, -, nonempty, whole, -⟩ := written
      apply iff_of_false
      · intro all
        rw [← whole, List.append_assoc, List.self_eq_append_right, List.append_eq_nil_iff] at all
        exact nonempty all.1
      · intro unfailed
        exact earnest (unfailed errno failed)

/-- Behind a write that fails for good nothing is done. -/
theorem eq_nil_of_failed {failing : Option Errno} (written : p.HasWritten content failing)
    {before later : List FeedingDeed} {asked : Bytes} {errno : Errno}
    (split : p.deeds = before ++ .writes asked (.failed errno) :: later)
    (earnest : errno ≠ .interrupted) : later = [] := by
  have failed : .failed errno ∈ p.replies := by simp [replies, split, FeedingDeed.reply?]
  obtain rfl := eq_of_mem_replies written failed earnest
  obtain ⟨-, first, other, last, -, -, passing⟩ := written
  rcases List.eq_nil_or_concat later with rfl | ⟨rest, final, rfl⟩
  · rfl
  · rw [split, List.concat_eq_append, ← List.cons_append, ← List.append_assoc] at last
    obtain ⟨rfl, -⟩ := List.append_inj' last rfl
    exact absurd (passing errno (by simp [FeedingDeed.reply?])) earnest

theorem ending_eq_iff {close : Except Fault Unit} {failing : Option Errno} {fault : Option Fault}
    (closes : close = .ok ()) (ended : ending close failing = .ended fault) (raised : Fault) :
    fault = some raised ↔
      ∃ errno, failing = some errno ∧ errno ≠ .brokenPipe ∧ raised = writeFault errno := by
  subst closes
  cases failing with
  | none =>
      obtain rfl : none = fault := Feeding.ended.inj ended
      simp
  | some errno =>
      by_cases unread : errno = .brokenPipe
      · simp only [ending, if_pos unread] at ended
        obtain rfl : none = fault := Feeding.ended.inj ended
        simp [unread]
      · simp only [ending, if_neg unread] at ended
        obtain rfl := Feeding.ended.inj ended
        simp [unread, eq_comm]

theorem replies_run (outcomes : Nat → WriteReply) (close : Except Fault Unit) (source : Source)
    (n : Nat) :
    (run outcomes close source n).replies =
      (List.range (run outcomes close source n).replies.length).map outcomes := by
  induction n with
  | zero => rfl
  | succ n inductionHypothesis =>
      rw [run_succ, replies_step]
      generalize run outcomes close source n = p at *
      have asks : (p.stage.deed? (outcomes p.replies.length) p.source).bind FeedingDeed.reply? =
          none ∨ (p.stage.deed? (outcomes p.replies.length) p.source).bind FeedingDeed.reply? =
            some (outcomes p.replies.length) := by
        cases p.stage with
        | writing left => cases left <;> simp [Feeding.deed?, FeedingDeed.reply?]
        | closing | ended fault => exact .inl rfl
      rcases asks with none | some
      · simpa [none] using inductionHypothesis
      · rw [some]
        simp [List.range_succ, ← inductionHypothesis]

end

end Feeder

/-- Whatever the writes of an input pump are answered, if each takes something or fails and only
finitely many are interrupted, the pump comes to an end and stays there.  Its writes were then
answered by the first outcomes, and `feed` and `conclude` say what it has come to.

* What the stream has taken is the beginning of the source.
* It is the whole source if and only if no write failed other than being interrupted.
* If the stream can be closed, the fault of the pump is that of a write which failed other than by
  being interrupted or because the process no longer reads; there is one if there is such a write.
* Behind a write that failed other than by being interrupted the pump has neither written nor
  taken anything from the source. -/
theorem delivers_faithfully {τ : Type} (outcomes : Nat → WriteReply) (source : Source)
    (close : τ → Except Fault Unit × τ) (stream : τ) (accepting : ∀ i, outcomes i ≠ .taken 0)
    (patient : {i | outcomes i = .failed .interrupted}.Finite) :
    ∃ n fault,
      let p := Feeder.run outcomes (close stream).1 source n
      let fed := feed p.replies source
      (p.stage = .ended fault ∧ ∀ m, n ≤ m → Feeder.run outcomes (close stream).1 source m = p) ∧
      p.replies = (List.range p.replies.length).map outcomes ∧
      (fed.delivered = p.delivered ∧ fed.source = p.source ∧
        (fed.conclude close stream).1 = fault) ∧
      p.delivered <+: source.content ∧
      (p.delivered = source.content ↔
        ∀ errno, .failed errno ∈ p.replies → errno = .interrupted) ∧
      ((close stream).1 = .ok () → ∀ raised, fault = some raised ↔
        ∃ errno, .failed errno ∈ p.replies ∧ errno ≠ .interrupted ∧ errno ≠ .brokenPipe ∧
          raised = writeFault errno) ∧
      ∀ before later asked errno, p.deeds = before ++ .writes asked (.failed errno) :: later →
        errno ≠ .interrupted → later = [] := by
  obtain ⟨n, fault, ended⟩ := Feeder.exists_ended accepting patient (close stream).1 source
  have sound := Feeder.sound_run outcomes (close stream).1 source n
  have comesTo := Feeder.comesTo_run outcomes (close stream).1 source n []
  rw [Feeder.Sound, ended] at sound
  rw [Feeder.comesTo_of_ended ended, List.append_nil] at comesTo
  obtain ⟨failing, written, ending⟩ := sound
  refine ⟨n, fault, ?_⟩
  intro p fed
  have result : (fed.delivered, fed.source, fed.end (close stream).1) =
      (p.delivered, p.source, .ended fault) := by
    rw [comesTo]
    simp [Feeder.comesTo, fed, p, Feeder.delivered]
  obtain ⟨delivered, left, sameEnd⟩ := by simpa using result
  refine ⟨⟨ended, fun m later => Feeder.run_of_ended ended later⟩, Feeder.replies_run ..,
    ⟨delivered, left, ?_⟩, Feeder.isPrefix_of_hasWritten written, Feeder.delivered_eq_iff written,
    ?_, fun before later asked errno => Feeder.eq_nil_of_failed written⟩
  · rw [← Fed.ended_conclude] at sameEnd
    exact Feeding.ended.inj sameEnd
  · intro closes raised
    rw [Feeder.ending_eq_iff closes ending]
    constructor
    · rintro ⟨errno, rfl, notUnread, same⟩
      exact ⟨errno, Feeder.mem_replies_of_hasWritten written, written.1, notUnread, same⟩
    · rintro ⟨errno, failed, earnest, notUnread, same⟩
      exact ⟨errno, Feeder.eq_of_mem_replies written failed earnest, notUnread, same⟩

/-- A write is interrupted, made again and taken in part, and the next one fails. -/
def faltering : Nat → WriteReply
  | 0 => .failed .interrupted
  | 1 => .taken 2
  | 2 => .failed .inputOutput
  | _ => .taken 1

/-- The stream has taken what it took before the failure, and not more. -/
theorem delivers_faithfully_faltering :
    let source : Source := { remaining := utf8 "abcd" }
    let p := Feeder.run faltering (.ok ()) source 4
    (∀ i, faltering i ≠ .taken 0) ∧ {i | faltering i = .failed .interrupted}.Finite ∧
      p.stage = .ended (some (writeFault .inputOutput)) ∧
      (feed p.replies source).delivered = utf8 "ab" ∧ p.delivered <+: source.content ∧
      p.delivered ≠ source.content := by
  intro source p
  have accepting : ∀ i, faltering i ≠ .taken 0
    | 0 | 1 | 2 => by decide
    | _ + 3 => nofun
  have patient : {i | faltering i = .failed .interrupted}.Finite := by
    apply (Set.finite_singleton 0).subset
    intro i interrupted
    match i with
    | 0 => rfl
    | 1 | 2 => exact absurd interrupted (by decide)
    | _ + 3 => cases interrupted
  have ended : p.stage = .ended (some (writeFault .inputOutput)) := by decide
  obtain ⟨n, fault, ⟨_, stays⟩, _, ⟨delivered, _⟩, beginning, whole, _⟩ :=
    delivers_faithfully faltering source (fun closed : Unit => (.ok (), closed)) () accepting
      patient
  have same : p = Feeder.run faltering (.ok ()) source n := by
    rcases Nat.le_total n 4 with early | late
    · exact stays 4 early
    · exact (Feeder.run_of_ended ended late).symm
  simp only [← same] at delivered beginning whole
  refine ⟨accepting, patient, ended, delivered.trans (by decide), beginning, ?_⟩
  intro all
  exact absurd (whole.mp all .inputOutput (by decide)) (by decide)

end Overseer.Pump
