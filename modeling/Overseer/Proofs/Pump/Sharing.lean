import Overseer.Proofs.Pump.Chronicle

/-!
# What sessions share

The pumps of all sessions of a stream handler write to the same sinks and take from the same
source.  As long as no read and no write fails, nothing is lost by that and nothing is there twice:
a sink is given the chunks of all streams that lead to it, one whole chunk after the other and those
of each stream in order, and every chunk of the source goes to one process.
-/

namespace Overseer.Pump

namespace Chronicle

variable {σ α : Type}

/-- What the pumps have done accounts for what they are at, and for what they share. -/
structure Accounted (held : σ → Bytes) (shared : Shared σ) (c : Chronicle σ α) : Prop where
  /-- What a pump has done accounts for what it is at. -/
  each : ∀ (n : Nat) (job : Job α), c.pumps[n]? = some job →
    job.work.AccountsFor job.stream (entriesOf n c.deeds)
  /-- What was done was done by a pump. -/
  owned : ∀ n deed, (n, deed) ∈ c.deeds → ∃ job : Job α, c.pumps[n]? = some job ∧
    deed.IsOf job.stream
  /-- A sink holds what was written to it. -/
  sinks : ∀ stream, stream ≠ .input → held (c.station.shared.sink stream) =
    held (shared.sink stream) ++
      (c.deeds.filterMap fun entry => entry.2.putTo? shared stream).flatten
  /-- The source holds what was not taken from it. -/
  source : (c.deeds.filterMap fun entry => entry.2.taken?).flatten ++ c.station.shared.content =
    shared.content
  /-- That is nothing once a pump has found its end. -/
  exhausted : ∀ job ∈ c.pumps, job.work.hasFoundEnd = true → c.station.shared.content = []
  /-- Streams with one sink keep it. -/
  together : c.station.shared.error.isNone = shared.error.isNone

namespace Accounted

section

variable {kind : SinkKind σ} {held : σ → Bytes} {shared : Shared σ} {c c' : Chronicle σ α}

theorem begun (accounted : c.Accounted held shared) {started : List (Job α)}
    (fresh : ∀ job ∈ started, job.work = .begin job.stream)
    (pumps : c'.pumps = c.pumps ++ started) (same : c'.station.shared = c.station.shared)
    (deeds : c'.deeds = c.deeds) : c'.Accounted held shared where
  each := by
    intro n job found
    rw [pumps, List.getElem?_append] at found
    rw [deeds]
    split at found
    · exact accounted.each n job found
    · next outside =>
        have nothing : entriesOf n c.deeds = [] := by
          refine entriesOf_eq_nil fun entry mem => ?_
          obtain ⟨job, known, -⟩ := accounted.owned entry.1 entry.2 mem
          have inside := (List.getElem?_eq_some_iff.mp known).1
          omega
        rw [nothing, fresh job (List.mem_of_getElem? found)]
        exact Work.accountsFor_begin job.stream
  owned := by
    intro n deed mem
    rw [deeds] at mem
    obtain ⟨job, known, own⟩ := accounted.owned n deed mem
    have inside := (List.getElem?_eq_some_iff.mp known).1
    rw [pumps, List.getElem?_append_left inside]
    exact ⟨job, known, own⟩
  sinks := by
    rw [same, deeds]
    exact accounted.sinks
  source := by
    rw [same, deeds]
    exact accounted.source
  exhausted := by
    intro job mem found
    rw [same]
    rw [pumps, List.mem_append] at mem
    rcases mem with old | new
    · exact accounted.exhausted job old found
    · rw [fresh job new] at found
      cases stream : job.stream <;> rw [stream] at found <;> contradiction
  together := by
    rw [same]
    exact accounted.together

/-- A pump goes on, or its session takes note of its fault. -/
theorem changed (accounted : c.Accounted held shared) {n : Nat} {job : Job α}
    {work : Work} (new : List Deed) (found : c.pumps[n]? = some job)
    (pumps : c'.pumps = c.pumps.set n { job with work })
    (deeds : c'.deeds = c.deeds ++ new.map (n, ·))
    (accounts : work.AccountsFor job.stream (entriesOf n c.deeds ++ new))
    (own : ∀ deed ∈ new, deed.IsOf job.stream)
    (sinks : ∀ stream, stream ≠ .input → held (c'.station.shared.sink stream) =
      held (c.station.shared.sink stream) ++ (new.filterMap (Deed.putTo? shared stream)).flatten)
    (source : (new.filterMap Deed.taken?).flatten ++ c'.station.shared.content =
      c.station.shared.content)
    (exhausted : work.hasFoundEnd = true → c.station.shared.content = [])
    (together : c'.station.shared.error.isNone = c.station.shared.error.isNone) :
    c'.Accounted held shared where
  each := by
    intro m other known
    rw [pumps, List.getElem?_set] at known
    rw [deeds, entriesOf_append, entriesOf_map]
    by_cases same : n = m
    · subst same
      have inside := (List.getElem?_eq_some_iff.mp found).1
      rw [if_pos rfl, if_pos inside] at known
      obtain rfl := Option.some.inj known
      rw [if_pos rfl]
      exact accounts
    · rw [if_neg same] at known
      rw [if_neg same, List.append_nil]
      exact accounted.each m other known
  owned := by
    intro m deed mem
    have known : ∃ job : Job α, c.pumps[m]? = some job ∧ deed.IsOf job.stream := by
      rw [deeds, List.mem_append, List.mem_map] at mem
      rcases mem with old | ⟨deed, now, same⟩
      · exact accounted.owned m deed old
      · obtain ⟨rfl, rfl⟩ := Prod.mk.inj same
        exact ⟨job, found, own deed now⟩
    obtain ⟨other, known, own⟩ := known
    rw [pumps, List.getElem?_set]
    by_cases same : n = m
    · subst same
      obtain rfl := Option.some.inj (found.symm.trans known)
      have inside := (List.getElem?_eq_some_iff.mp found).1
      rw [if_pos rfl, if_pos inside]
      exact ⟨{ job with work }, rfl, own⟩
    · rw [if_neg same]
      exact ⟨other, known, own⟩
  sinks := by
    intro stream output
    rw [sinks stream output, accounted.sinks stream output, deeds, List.filterMap_append,
      List.flatten_append, List.append_assoc, List.filterMap_map]
    rfl
  source := by
    rw [← accounted.source, ← source, deeds, List.filterMap_append, List.flatten_append,
      List.append_assoc, List.filterMap_map]
    rfl
  exhausted := by
    intro other mem foundEnd
    have nothing : c.station.shared.content = [] := by
      rw [pumps] at mem
      rcases List.mem_or_eq_of_mem_set mem with before | rfl
      · exact accounted.exhausted other before foundEnd
      · exact exhausted foundEnd
    rw [← source] at nothing
    exact (List.append_eq_nil_iff.mp nothing).2
  together := together.trans accounted.together

theorem next (keeps : kind.Keeps held) (accounted : c.Accounted held shared)
    (next : Next kind c c') (fine : ∀ entry ∈ c'.deeds, entry.2.isFine = true) :
    c'.Accounted held shared := by
  cases next with
  | begun started fresh pumps same deeds => exact accounted.begun fresh pumps same deeds
  | noted n job found fault ended pumps same deeds =>
      have accounts := accounted.each n job found
      refine accounted.changed [] found pumps ?_ ?_ nofun ?_ ?_ ?_ ?_
      · rw [deeds]
        exact (List.append_nil _).symm
      · rw [List.append_nil]
        exact Work.accountsFor_done accounts ended
      · intro stream _
        rw [same]
        exact (List.append_nil _).symm
      · rw [same]
        rfl
      · intro foundEnd
        rw [Work.hasFoundEnd_done ended] at foundEnd
        exact accounted.exhausted job (List.mem_of_getElem? found) foundEnd
      · rw [same]
  | moved n job found going answers pumps same deeds =>
      have accounts := accounted.each n job found
      have alright : job.work.GoesWell kind answers job.stream c.station.shared := by
        intro deed done
        refine fine (n, deed) ?_
        rw [deeds, done]
        exact List.mem_append_right _ List.mem_cons_self
      refine accounted.changed _ found pumps deeds
        (Work.accountsFor_step accounts going alright) ?_ ?_ ?_ ?_ ?_
      · intro deed mem
        exact Work.isOf_deed? accounts (Option.mem_toList.mp mem)
      · intro stream output
        rw [same, Deed.putTo?_eq_of_isNone_eq accounted.together.symm]
        exact Work.held_step keeps accounts alright output
      · rw [same]
        exact job.work.content_step
      · intro foundEnd
        refine Work.content_of_hasFoundEnd ?_ alright foundEnd
        exact accounted.exhausted job (List.mem_of_getElem? found)
      · rw [same]
        exact Work.isNone_error_step

/-- Nothing is accounted for at first. -/
theorem fresh (held : σ → Bytes) (shared : Shared σ) :
    ({ station := { shared } } : Chronicle σ α).Accounted held shared where
  each _ _ found := absurd found nofun
  owned _ _ mem := absurd mem List.not_mem_nil
  sinks _ _ := (List.append_nil _).symm
  source := rfl
  exhausted _ mem := absurd mem List.not_mem_nil
  together := rfl

end

end Accounted

section

variable {kind : SinkKind σ} {held : σ → Bytes} {shared : Shared σ} {c c' : Chronicle σ α}
  {acts : List (Station.Act α)}

/-- As long as nothing fails everything that pumps do is accounted for. -/
theorem accounted_play (keeps : kind.Keeps held) (shared : Shared σ)
    (unfailed : ∀ entry ∈ (play kind { station := { shared } } acts).deeds,
      entry.2.isFine = true) :
    (play kind { station := { shared } } acts).Accounted held shared := by
  induction acts using List.reverseRecOn with
  | nil => exact .fresh held shared
  | append_singleton acts a inductionHypothesis =>
      rw [play_append_singleton] at unfailed ⊢
      have next : Next kind _ _ := ((matches_play kind shared acts).act a).1
      have accounted := inductionHypothesis fun entry mem => unfailed entry (next.deeds_subset mem)
      exact accounted.next keeps next unfailed

namespace Accounted

/-- What is written to a sink is written by the pumps that drain to it. -/
theorem drains_of_mem (accounted : c.Accounted held shared) {stream : StandardStream}
    {entry : Nat × Bytes} (mem : entry ∈ pick (Deed.putTo? shared stream) c.deeds) :
    c.Drains shared stream entry.1 := by
  obtain ⟨deed, done, made⟩ := mem_pick.mp mem
  obtain ⟨job, found, own⟩ := accounted.owned entry.1 deed done
  cases deed with
  | reads reply | feeds deed => contradiction
  | puts other chunk taken =>
      obtain ⟨output, rfl⟩ := own
      rw [Deed.putTo?, Option.ite_none_right_eq_some] at made
      exact ⟨job, found, output, made.1⟩

/-- What is taken from the source is taken by the pumps that feed from it. -/
theorem feeds_of_mem (accounted : c.Accounted held shared) {entry : Nat × Bytes}
    (mem : entry ∈ pick Deed.taken? c.deeds) : c.Feeds entry.1 := by
  obtain ⟨deed, done, made⟩ := mem_pick.mp mem
  obtain ⟨job, found, own⟩ := accounted.owned entry.1 deed done
  cases deed with
  | reads reply | puts other chunk taken => contradiction
  | feeds deed => exact ⟨job, found, own⟩

/-- A pump writes all its chunks to a sink that its stream leads to. -/
theorem filterMap_putTo? (accounted : c.Accounted held shared) {stream : StandardStream} {n : Nat}
    (drains : c.Drains shared stream n) :
    (entriesOf n c.deeds).filterMap (Deed.putTo? shared stream) =
      (entriesOf n c.deeds).filterMap Deed.put? := by
  obtain ⟨job, found, -, leads⟩ := drains
  refine List.filterMap_congr fun deed mem => ?_
  obtain ⟨job', found', own⟩ := accounted.owned n deed (mem_entriesOf.mp mem)
  obtain rfl := Option.some.inj (found.symm.trans found')
  cases deed with
  | reads reply | feeds deed => rfl
  | puts other chunk taken =>
      obtain ⟨-, rfl⟩ := own
      exact if_pos leads

end Accounted

end

/-- Whatever is done with the sessions of a handler, and however their pumps go on beside each
other, if no read and no write has failed and all pumps have ended:

* A sink holds, behind what it held before, the chunks that pumps have written to it, each as a
  whole.  They come from the pumps whose streams lead to it.  Each of these has read its stream to
  the end, and the chunks that come from it are those that it has read, in order.
* What was taken from the source and what is left of it is what there was, in order.  What was taken
  was taken by input pumps, and each of them has delivered what it has taken, in order.  If there
  was one nothing is left. -/
theorem shares_without_loss {kind : SinkKind σ} {held : σ → Bytes} (keeps : kind.Keeps held)
    (shared : Shared σ) (acts : List (Station.Act α)) :
    let c := play kind { station := { shared } } acts
    c.station = Station.play kind { shared } acts ∧
    ((∀ entry ∈ c.deeds, entry.2.isFine = true) →
      (∀ job ∈ c.station.jobs, job.work.isDone = true) →
      (∀ stream, stream ≠ .input → ∃ written : List (Nat × Bytes),
        held (c.station.shared.sink stream) =
          held (shared.sink stream) ++ (written.map Prod.snd).flatten ∧
        (∀ entry ∈ written, c.Drains shared stream entry.1) ∧
        ∀ n, c.Drains shared stream n → IsReadToEnd (c.replies n) ∧
          entriesOf n written = (c.replies n).filterMap ReadReply.chunk?) ∧
      ∃ taken : List (Nat × Bytes),
        (taken.map Prod.snd).flatten ++ c.station.shared.content = shared.content ∧
        (∀ entry ∈ taken, c.Feeds entry.1) ∧
        ∀ n, c.Feeds n → c.delivered n = (entriesOf n taken).flatten ∧
          c.station.shared.content = []) := by
  intro c
  refine ⟨station_play acts, fun unfailed finished => ?_⟩
  have accounted : c.Accounted held shared := accounted_play keeps shared unfailed
  have ended : ∀ {n : Nat} {job : Job α}, c.pumps[n]? = some job → job.work.isDone = true :=
    (matches_play kind shared acts).isDone finished
  constructor
  · intro stream output
    refine ⟨pick (Deed.putTo? shared stream) c.deeds, ?_, ?_, ?_⟩
    · rw [map_snd_pick]
      exact accounted.sinks stream output
    · intro entry mem
      exact accounted.drains_of_mem mem
    · intro n drains
      rw [entriesOf_pick, accounted.filterMap_putTo? drains]
      obtain ⟨job, found, output, -⟩ := drains
      exact Work.puts_of_isDone (accounted.each n job found) output (ended found)
  · refine ⟨pick Deed.taken? c.deeds, ?_, ?_, ?_⟩
    · rw [map_snd_pick]
      exact accounted.source
    · intro entry mem
      exact accounted.feeds_of_mem mem
    · rintro n ⟨job, found, input⟩
      obtain ⟨delivered, foundEnd⟩ :=
        Work.delivered_of_isDone (accounted.each n job found) input (ended found)
      rw [entriesOf_pick]
      exact ⟨delivered, accounted.exhausted job (List.mem_of_getElem? found) foundEnd⟩

/-- Two sessions, whose pumps get between each other.  The second one takes all that there is. -/
def relay : List (Station.Act Unit) :=
  let answers read : Answers := { read, write := .taken 1, close := .ok () }
  let goOn k := Station.Act.goOn k (answers .ended)
  let read k chunk := Station.Act.goOn k (answers (.data chunk))
  [.create, .bind 0 .output (), .bind 0 .input (), .bind 1 .output (), .bind 1 .error (),
    .bind 1 .input (), .start 0, .start 1, read 0 [1, 2], read 2 [3], goOn 2, goOn 0, read 3 [4],
    read 0 [5], goOn 4, goOn 1, goOn 3, goOn 4, goOn 0, goOn 4, goOn 4, goOn 4, goOn 1, goOn 0,
    goOn 2, goOn 3, goOn 3, goOn 2, goOn 0]

/-- All of them end, with a sink that holds what each has read. -/
theorem shares_without_loss_relay :
    let shared : Shared Sink :=
      { output := {}, error := none, source := some { remaining := [6, 7] } }
    let c := play Sink.kind { station := { shared } } relay
    (∃ written : List (Nat × Bytes),
      (c.station.shared.sink .output).taken = (written.map Prod.snd).flatten ∧
      entriesOf 0 written = [[1, 2], [5]] ∧ entriesOf 2 written = [[3]] ∧
      entriesOf 3 written = [[4]]) ∧
    ∃ taken : List (Nat × Bytes), (taken.map Prod.snd).flatten = [6, 7] ∧
      (entriesOf 1 taken).flatten = [] ∧ (entriesOf 4 taken).flatten = [6, 7] := by
  intro shared
  have shares := (shares_without_loss Sink.keeps_taken shared relay).2
  obtain ⟨sinks, taken, whole, -, feeds⟩ := shares (by decide +kernel) (by decide +kernel)
  obtain ⟨written, holds, -, drains⟩ := sinks .output (by decide)
  have first := (drains 0 (by decide +kernel)).2
  have second := (drains 2 (by decide +kernel)).2
  have third := (drains 3 (by decide +kernel)).2
  have idle := (feeds 1 (by decide +kernel)).1
  obtain ⟨busy, nothing⟩ := feeds 4 (by decide +kernel)
  rw [nothing, List.append_nil] at whole
  refine ⟨⟨written, holds, first.trans ?_, second.trans ?_, third.trans ?_⟩, taken, whole,
    idle.symm.trans ?_, busy.symm.trans ?_⟩
  · decide +kernel
  · decide +kernel
  · decide +kernel
  · decide +kernel
  · decide +kernel

end Chronicle

end Overseer.Pump
