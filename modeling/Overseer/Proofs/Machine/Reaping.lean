import Overseer.Machine.Handle

/-!
# Whoever waits for a child

Any number of callers use one handle: some wait for the child, some destroy it.  What a
caller does under the lock is one step, and so is the wait without collecting, which comes in
between; calls to the system may be interrupted at any time.  When no caller is left, the
handle is dropped.

A vigil is such a handle with its child, its callers, and the calls that have reached the
system.
-/

namespace Overseer.Machine

/-- Where somebody stands who waits for the child. -/
inductive Standing
  /-- About to look whether the status is known. -/
  | looking
  /-- About to wait without collecting, or doing so. -/
  | awaiting
  /-- About to collect. -/
  | collecting
  /-- Back with an exit value or a fault. -/
  | answered (reply : Except Fault Int)

/-- Whether somebody is back. -/
def Standing.isAnswered : Standing → Bool
  | answered _ => true
  | _ => false

/-- What the system keeps of a child that runs or has ended with a status, as long as nobody
collects it. -/
def uncollected : Option Int → Entry
  | none => .running
  | some status => .ended status

/-- What somebody can rely on where he stands, while the child runs or when it has ended with a
status. -/
def Standing.Fits (ending : Option Int) (entry : Entry) : Standing → Prop
  | looking | awaiting => True
  | collecting => entry ≠ .running
  | answered reply =>
      reply = .error .interrupted ∨
        ∃ status, ending = some status ∧ entry = .gone ∧
          reply = .ok (Ending.exitValueOfStatus status)

/-- A call to the system that concerns the child, other than the wait that does not
collect. -/
inductive Deed
  /-- The child was sent the signal that ends it. -/
  | signalled
  /-- The status was asked for. -/
  | asked (reply : Except Errno Int)

namespace Deed

/-- The status that was collected. -/
def status? : Deed → Option Int
  | asked (.ok status) => some status
  | _ => none

/-- Whether it was a signal, or an attempt that was interrupted. -/
def keepsEntry : Deed → Bool
  | signalled => true
  | asked (.ok _) => false
  | asked (.error errno) => errno = .interrupted

end Deed

/-- How far the handle is in its life. -/
inductive Tenancy
  /-- It is in use. -/
  | held
  /-- It is being dropped: the child was killed and is to be collected. -/
  | dropping
  /-- It was dropped. -/
  | dropped
deriving DecidableEq

/-- A child, its handle and whoever uses the handle. -/
structure Vigil where
  /-- What the system keeps of the child. -/
  entry : Entry := .running
  /-- What is known of the child. -/
  handle : Handle := {}
  /-- How far the handle is in its life. -/
  tenancy : Tenancy := .held
  /-- Where those who wait stand, in the order of their calls. -/
  waits : List Standing := []
  /-- What those who destroyed the child came back with. -/
  kills : List (Except Fault Unit) := []
  /-- The calls that have reached the system, in order. -/
  deeds : List Deed := []

namespace Vigil

/-- What happens next. -/
inductive Act
  /-- The child ends with a status. -/
  | finish (status : Int)
  /-- Somebody begins to wait. -/
  | begin
  /-- A caller looks whether the status is known. -/
  | look (i : Nat)
  /-- A caller waits without collecting, until the child has ended or he is interrupted. -/
  | await (i : Nat) (interrupted : Bool)
  /-- A caller collects, after a number of attempts that are interrupted. -/
  | collect (i : Nat) (interruptions : Nat)
  /-- Somebody destroys the child. -/
  | destroy
  /-- The handle begins to be dropped. -/
  | drop
  /-- The drop goes on to collect, after a number of attempts that are interrupted. -/
  | reap (interruptions : Nat)

/-- The status that the child ends with. -/
def Act.status? : Act → Option Int
  | finish status => some status
  | _ => none

/-- A caller goes on to another place. -/
def move (v : Vigil) (i : Nat) (place : Standing) : Vigil :=
  { v with waits := v.waits.set i place }

/-- Whether a reply ends a call that is made again as long as it is interrupted. -/
def isFinal : Except Errno Int → Bool
  | .ok _ => true
  | .error errno => errno ≠ .interrupted

/-- Ask for the status until the reply is not that the call was interrupted; nothing comes back
while the child runs. -/
def ask? (v : Vigil) (interruptions : Nat) : Option (Except Errno Int × Vigil) :=
  let replies := .replicate interruptions (.error .interrupted) ++ v.entry.collect?.toList
  (replies.find? isFinal).map fun reply =>
    (reply, { v with
      entry := if reply.toBool then .gone else v.entry
      deeds := v.deeds ++ replies.map .asked })

/-- What follows when something happens; nothing if it cannot happen, or not yet. -/
def step? (v : Vigil) : Act → Option Vigil
  | .finish status => if v.entry = .running then some { v with entry := .ended status } else none
  | .begin => if v.tenancy = .held then some { v with waits := v.waits ++ [.looking] } else none
  | .look i =>
      match v.waits[i]?, v.handle.exitValue? with
      | some .looking, some value => some (v.move i (.answered (.ok value)))
      | some .looking, none => some (v.move i .awaiting)
      | _, _ => none
  | .await i interrupted =>
      match v.waits[i]?, if interrupted then some (.error .interrupted) else v.entry.awaitEnd? with
      | some .awaiting, some reply =>
          match Handle.afterWait reply with
          | .ok () => some (v.move i .collecting)
          | .error fault => some (v.move i (.answered (.error fault)))
      | _, _ => none
  | .collect i interruptions =>
      match v.waits[i]?, v.handle.exitValue? with
      | some .collecting, some value => some (v.move i (.answered (.ok value)))
      | some .collecting, none =>
          (v.ask? interruptions).map fun (reply, v) =>
            let (answer, handle) := v.handle.collect reply
            { v with handle }.move i (.answered answer)
      | _, _ => none
  | .destroy =>
      if v.tenancy = .held then
        if v.handle.maySignal then
          some { v with
            kills := v.kills ++ [Handle.afterSignal v.entry.killReply]
            deeds := v.deeds ++ [.signalled] }
        else some { v with kills := v.kills ++ [.ok ()] }
      else none
  | .drop =>
      if v.tenancy = .held ∧ v.waits.all Standing.isAnswered then
        if v.handle.maySignal then
          some { v with tenancy := .dropping, deeds := v.deeds ++ [.signalled] }
        else some { v with tenancy := .dropped }
      else none
  | .reap interruptions =>
      if v.tenancy = .dropping then
        (v.ask? interruptions).map fun (_, v) => { v with tenancy := .dropped }
      else none

/-- What comes of several acts; one that cannot happen is left out. -/
def play (v : Vigil) (acts : List Act) : Vigil :=
  acts.foldl (fun v act => (v.step? act).getD v) v

/-- The statuses that were collected. -/
def collections (v : Vigil) : List Int :=
  v.deeds.filterMap Deed.status?

/-! ## Asking for the status -/

/-- The attempts that are interrupted. -/
def interruptedAttempts (interruptions : Nat) : List Deed :=
  .replicate interruptions (.asked (.error .interrupted))

theorem keepsEntry_of_mem_interruptedAttempts (interruptions : Nat) :
    ∀ deed ∈ interruptedAttempts interruptions, deed.keepsEntry = true := by
  intro deed inner
  rw [List.eq_of_mem_replicate inner]
  rfl

theorem find?_isFinal_interrupted (interruptions : Nat) (replies : List (Except Errno Int)) :
    (List.replicate interruptions (Except.error Errno.interrupted) ++ replies).find? isFinal =
      replies.find? isFinal := by
  induction interruptions with
  | zero => rfl
  | succ interruptions inductionHypothesis =>
      rw [List.replicate_succ, List.cons_append, List.find?_cons_of_neg (by simp [isFinal])]
      exact inductionHypothesis

section

variable {v : Vigil}

/-- While the child runs, there is nothing to collect. -/
theorem ask?_of_running (running : v.entry = .running) (interruptions : Nat) :
    v.ask? interruptions = none := by
  simp only [ask?, running, Entry.collect?, find?_isFinal_interrupted]
  rfl

/-- The status of a child that has ended is collected, however often the call is interrupted. -/
theorem ask?_of_ended {status : Int} (ended : v.entry = .ended status) (interruptions : Nat) :
    v.ask? interruptions = some (.ok status, { v with
      entry := .gone
      deeds := v.deeds ++ interruptedAttempts interruptions ++ [.asked (.ok status)] }) := by
  simp only [ask?, ended, Entry.collect?, find?_isFinal_interrupted]
  simp [isFinal, interruptedAttempts, Except.toBool]

end

/-! ## What holds throughout -/

/-- How the child, its handle and the calls to the system go together, for a child that runs or
has ended with a status. -/
inductive Tidy (ending : Option Int) : Entry → Handle → Tenancy → List Deed → Prop
  /-- Nobody has collected the status. -/
  | unknown {tenancy : Tenancy} {deeds : List Deed} (kept : tenancy ≠ .dropped)
      (futile : ∀ deed ∈ deeds, deed.keepsEntry = true) :
      Tidy ending (uncollected ending) {} tenancy deeds
  /-- A caller has collected the status, and the handle knows. -/
  | known {status : Int} {tenancy : Tenancy} {before : List Deed} (ended : ending = some status)
      (kept : tenancy ≠ .dropping) (futile : ∀ deed ∈ before, deed.keepsEntry = true) :
      Tidy ending .gone { exitValue? := some (Ending.exitValueOfStatus status) } tenancy
        (before ++ [.asked (.ok status)])
  /-- The drop has collected the status, and nobody will ask the handle. -/
  | released {status : Int} {before : List Deed} (ended : ending = some status)
      (futile : ∀ deed ∈ before, deed.keepsEntry = true) :
      Tidy ending .gone {} .dropped (before ++ [.asked (.ok status)])

/-- What holds of a vigil whatever has happened. -/
structure Kept (ending : Option Int) (v : Vigil) : Prop where
  /-- The child and the handle agree. -/
  tidy : Tidy ending v.entry v.handle v.tenancy v.deeds
  /-- Whoever waits can rely on what he has seen. -/
  fits : ∀ place ∈ v.waits, place.Fits ending v.entry
  /-- Nobody is left when the handle is dropped. -/
  idle : v.tenancy ≠ .held → ∀ place ∈ v.waits, place.isAnswered = true
  /-- Nobody has failed to destroy the child. -/
  killed : ∀ reply ∈ v.kills, reply = .ok ()

section

variable {ending : Option Int} {entry : Entry} {handle : Handle} {tenancy : Tenancy}
  {deeds : List Deed} {v next : Vigil} {i interruptions : Nat} {place : Standing}

theorem Tidy.of_known {value : Int} (tidy : Tidy ending entry handle tenancy deeds)
    (isKnown : handle.exitValue? = some value) :
    ∃ status, ending = some status ∧ entry = .gone ∧ value = Ending.exitValueOfStatus status := by
  cases tidy with
  | known ended => exact ⟨_, ended, rfl, (Option.some.inj isKnown).symm⟩
  | unknown => contradiction
  | released => contradiction

/-- Until the handle knows the status, the system keeps it. -/
theorem Tidy.of_unknown (tidy : Tidy ending entry handle tenancy deeds)
    (kept : tenancy ≠ .dropped) (isUnknown : handle.exitValue? = none) :
    entry = uncollected ending ∧ handle = {} ∧ ∀ deed ∈ deeds, deed.keepsEntry = true := by
  cases tidy with
  | unknown _ futile => exact ⟨rfl, rfl, futile⟩
  | known => contradiction
  | released => contradiction

theorem Tidy.running_of_none (tidy : Tidy none entry handle tenancy deeds) : entry = .running := by
  cases tidy with
  | unknown => rfl
  | known ended => contradiction
  | released ended => contradiction

/-- The status is collected by the last call to the system, once the child has ended with it. -/
theorem Tidy.deeds_eq (tidy : Tidy ending entry handle tenancy deeds) :
    (entry ≠ .gone ∧ tenancy ≠ .dropped ∧ ∀ deed ∈ deeds, deed.keepsEntry = true) ∨
    ∃ status before, ending = some status ∧ (∀ deed ∈ before, deed.keepsEntry = true) ∧
      deeds = before ++ [.asked (.ok status)] := by
  cases tidy with
  | unknown kept futile => exact .inl ⟨by cases ending <;> simp [uncollected], kept, futile⟩
  | known ended _ futile => exact .inr ⟨_, _, ended, futile, rfl⟩
  | released ended futile => exact .inr ⟨_, _, ended, futile, rfl⟩

/-- While the handle is being dropped, it does not know the status. -/
theorem Tidy.unknown_of_dropping (tidy : Tidy ending entry handle .dropping deeds) :
    handle.exitValue? = none := by
  cases tidy with
  | unknown => rfl
  | known _ kept => contradiction

/-- A signal takes nothing, and none is sent once the status is known. -/
theorem Tidy.signal (tidy : Tidy ending entry handle tenancy deeds) (kept : tenancy ≠ .dropped)
    (isUnknown : handle.exitValue? = none) {later : Tenancy} (stays : later ≠ .dropped) :
    Tidy ending entry handle later (deeds ++ [.signalled]) := by
  obtain ⟨rfl, rfl, futile⟩ := tidy.of_unknown kept isUnknown
  exact .unknown stays
    (List.forall_mem_append.mpr ⟨futile, List.forall_mem_singleton.mpr rfl⟩)

/-- Once a caller has collected the status, there is nothing to do for the drop. -/
theorem Tidy.drop_of_known {value : Int} (tidy : Tidy ending entry handle tenancy deeds)
    (isKnown : handle.exitValue? = some value) : Tidy ending entry handle .dropped deeds := by
  cases tidy with
  | known ended _ futile => exact .known ended (by simp) futile
  | unknown => contradiction
  | released => contradiction

/-! ### The parts of a step -/

/-- What somebody relies on stays true. -/
theorem fits_of_fits {ending' : Option Int} {entry' : Entry} (fits : place.Fits ending entry)
    (ended : entry ≠ .running → entry' ≠ .running)
    (gone : entry = .gone → ending' = ending ∧ entry' = .gone) : place.Fits ending' entry' := by
  cases place with
  | looking => trivial
  | awaiting => trivial
  | collecting => exact ended fits
  | answered reply =>
      rcases fits with interrupted | ⟨status, found, collected, answer⟩
      · exact .inl interrupted
      · obtain ⟨same, collected⟩ := gone collected
        exact .inr ⟨status, same.trans found, collected, answer⟩

/-- Nothing but an interruption makes the wait fail: that somebody else has collected the status
does not. -/
theorem afterWait_awaitEnd {reply : Except Errno Unit} (awaited : entry.awaitEnd? = some reply) :
    Handle.afterWait reply = .ok () ∧ entry ≠ .running := by
  cases entry with
  | running => contradiction
  | ended status =>
      cases awaited
      exact ⟨rfl, nofun⟩
  | gone =>
      cases awaited
      exact ⟨rfl, nofun⟩

namespace Kept

/-- As long as somebody waits, the handle is in use. -/
theorem held (kept : Kept ending v) (found : v.waits[i]? = some place)
    (waits : place.isAnswered = false) : v.tenancy = .held := by
  by_cases inUse : v.tenancy = .held
  · exact inUse
  · have answered := kept.idle inUse place (List.mem_of_getElem? found)
    rw [waits] at answered
    contradiction

/-- A caller goes on to a place where he can rely on what he should. -/
theorem move (kept : Kept ending v) (inUse : v.tenancy = .held)
    (fits : place.Fits ending v.entry) : Kept ending (v.move i place) where
  tidy := kept.tidy
  fits := by
    intro other inner
    rcases List.mem_or_eq_of_mem_set inner with before | rfl
    · exact kept.fits other before
    · exact fits
  idle released := absurd inUse released
  killed := kept.killed

/-- A caller comes back with the exit value that the handle knows. -/
theorem answer (kept : Kept ending v) (found : v.waits[i]? = some place)
    (waits : place.isAnswered = false) {value : Int} (isKnown : v.handle.exitValue? = some value) :
    Kept ending (v.move i (.answered (.ok value))) := by
  obtain ⟨status, ended, gone, rfl⟩ := kept.tidy.of_known isKnown
  exact kept.move (kept.held found waits) (.inr ⟨status, ended, gone, rfl⟩)

/-- The child ends. -/
theorem finish (kept : Kept ending v) (running : v.entry = .running) (status : Int) :
    ending = none ∧ Kept (some status) { v with entry := .ended status } := by
  rcases v with ⟨entry, handle, tenancy, waits, kills, deeds⟩
  obtain ⟨tidy, fits, idle, killed⟩ := kept
  cases tidy with
  | known => contradiction
  | released => contradiction
  | unknown undropped futile =>
      cases ending with
      | some status => contradiction
      | none =>
          refine ⟨rfl, .unknown undropped futile, ?_, idle, killed⟩
          intro place inner
          exact fits_of_fits (fits place inner) (fun _ => nofun) nofun

/-- What comes of asking for the status while the handle does not know it. -/
theorem of_ask? (kept : Kept ending v) (undropped : v.tenancy ≠ .dropped)
    (unknown : v.handle.exitValue? = none) {reply : Except Errno Int}
    (asked : v.ask? interruptions = some (reply, next)) :
    ∃ status before, ending = some status ∧ v.entry = .ended status ∧ reply = .ok status ∧
      (∀ deed ∈ before, deed.keepsEntry = true) ∧
      next = { v with entry := .gone, deeds := before ++ [.asked (.ok status)] } := by
  obtain ⟨entry, _, futile⟩ := kept.tidy.of_unknown undropped unknown
  cases ending with
  | none =>
      rw [ask?_of_running entry] at asked
      contradiction
  | some status =>
      rw [ask?_of_ended entry] at asked
      cases asked
      exact ⟨status, _, rfl, entry, rfl, List.forall_mem_append.mpr
        ⟨futile, keepsEntry_of_mem_interruptedAttempts interruptions⟩, rfl⟩

/-- What callers rely on stays true when the status is collected. -/
theorem fits_gone (kept : Kept ending v) {status : Int} (ended : v.entry = .ended status) :
    ∀ place ∈ v.waits, place.Fits ending .gone := by
  intro place inner
  exact fits_of_fits (kept.fits place inner) (fun _ => nofun) (by simp [ended])

/-! ### Whole steps -/

theorem begin (kept : Kept ending v) (step : v.step? .begin = some next) : Kept ending next := by
  simp only [step?, Option.ite_none_right_eq_some, Option.some.injEq] at step
  obtain ⟨inUse, rfl⟩ := step
  have fits : ∀ place ∈ v.waits ++ [.looking], place.Fits ending v.entry :=
    List.forall_mem_append.mpr ⟨kept.fits, List.forall_mem_singleton.mpr trivial⟩
  exact ⟨kept.tidy, fits, fun released => absurd inUse released, kept.killed⟩

theorem look (kept : Kept ending v) (step : v.step? (.look i) = some next) :
    Kept ending next := by
  simp only [step?] at step
  split at step
  · next value found isKnown =>
      cases step
      exact kept.answer found rfl isKnown
  · next found _ =>
      cases step
      exact kept.move (kept.held found rfl) trivial
  · contradiction

theorem await {interrupted : Bool} (kept : Kept ending v)
    (step : v.step? (.await i interrupted) = some next) : Kept ending next := by
  simp only [step?] at step
  split at step
  · next reply found awaited =>
      have inUse := kept.held found rfl
      cases interrupted with
      | true =>
          cases awaited
          cases step
          exact kept.move inUse (.inl rfl)
      | false =>
          obtain ⟨passed, ended⟩ := afterWait_awaitEnd awaited
          rw [passed] at step
          cases step
          exact kept.move inUse ended
  · contradiction

theorem collect (kept : Kept ending v) (step : v.step? (.collect i interruptions) = some next) :
    Kept ending next := by
  simp only [step?] at step
  split at step
  · next value found isKnown =>
      cases step
      exact kept.answer found rfl isKnown
  · next found unknown =>
      have inUse := kept.held found rfl
      have undropped : v.tenancy ≠ .dropped := by simp [inUse]
      obtain ⟨⟨reply, w⟩, asked, rfl⟩ := Option.map_eq_some_iff.mp step
      obtain ⟨status, before, ended, entry, rfl, futile, rfl⟩ :=
        kept.of_ask? undropped unknown asked
      have collected : Kept ending { v with
          entry := .gone
          handle := { exitValue? := some (Ending.exitValueOfStatus status) }
          deeds := before ++ [.asked (.ok status)] } :=
        ⟨.known ended (by simp [inUse]) futile, kept.fits_gone entry, kept.idle, kept.killed⟩
      simp only [Handle.collect, unknown]
      exact collected.move inUse (.inr ⟨status, ended, rfl, rfl⟩)
  · contradiction

theorem destroy (kept : Kept ending v) (step : v.step? .destroy = some next) :
    Kept ending next := by
  simp only [step?, Option.ite_none_right_eq_some] at step
  obtain ⟨inUse, step⟩ := step
  have undropped : v.tenancy ≠ .dropped := by simp [inUse]
  split at step
  · next signals =>
      cases step
      have unknown : v.handle.exitValue? = none := Option.isNone_iff_eq_none.mp signals
      obtain ⟨entry, _, _⟩ := kept.tidy.of_unknown undropped unknown
      have reply : Handle.afterSignal v.entry.killReply = .ok () := by
        rw [entry]
        cases ending <;> rfl
      exact ⟨kept.tidy.signal undropped unknown undropped, kept.fits, kept.idle,
        List.forall_mem_append.mpr ⟨kept.killed, List.forall_mem_singleton.mpr reply⟩⟩
  · cases step
    exact ⟨kept.tidy, kept.fits, kept.idle,
      List.forall_mem_append.mpr ⟨kept.killed, List.forall_mem_singleton.mpr rfl⟩⟩

theorem drop (kept : Kept ending v) (step : v.step? .drop = some next) : Kept ending next := by
  simp only [step?, Option.ite_none_right_eq_some] at step
  obtain ⟨⟨inUse, free⟩, step⟩ := step
  have undropped : v.tenancy ≠ .dropped := by simp [inUse]
  have idle : ∀ place ∈ v.waits, place.isAnswered = true := List.all_eq_true.mp free
  split at step
  · next signals =>
      cases step
      have unknown : v.handle.exitValue? = none := Option.isNone_iff_eq_none.mp signals
      exact ⟨kept.tidy.signal undropped unknown (by simp), kept.fits, fun _ => idle, kept.killed⟩
  · next silent =>
      cases step
      obtain ⟨value, known⟩ : ∃ value, v.handle.exitValue? = some value := by
        simpa [Handle.maySignal, Option.ne_none_iff_exists'] using silent
      exact ⟨kept.tidy.drop_of_known known, kept.fits, fun _ => idle, kept.killed⟩

theorem reap (kept : Kept ending v) (step : v.step? (.reap interruptions) = some next) :
    Kept ending next := by
  simp only [step?, Option.ite_none_right_eq_some] at step
  obtain ⟨dropping, step⟩ := step
  have undropped : v.tenancy ≠ .dropped := by simp [dropping]
  have unknown : v.handle.exitValue? = none := by
    have tidy := kept.tidy
    rw [dropping] at tidy
    exact tidy.unknown_of_dropping
  obtain ⟨⟨reply, w⟩, asked, rfl⟩ := Option.map_eq_some_iff.mp step
  obtain ⟨status, before, ended, entry, rfl, futile, rfl⟩ := kept.of_ask? undropped unknown asked
  obtain ⟨_, handle, _⟩ := kept.tidy.of_unknown undropped unknown
  refine ⟨?_, kept.fits_gone entry, fun _ => kept.idle (by simp [dropping]), kept.killed⟩
  simp only [handle]
  exact .released ended futile

/-- One step keeps what holds. -/
theorem step (kept : Kept ending v) {act : Act} (step : v.step? act = some next) :
    Kept (ending.or act.status?) next := by
  cases act with
  | finish status =>
      simp only [step?, Option.ite_none_right_eq_some, Option.some.injEq] at step
      obtain ⟨running, rfl⟩ := step
      obtain ⟨rfl, finished⟩ := kept.finish running status
      exact finished
  | begin => simpa [Act.status?] using kept.begin step
  | look i => simpa [Act.status?] using kept.look step
  | await i interrupted => simpa [Act.status?] using kept.await step
  | collect i interruptions => simpa [Act.status?] using kept.collect step
  | destroy => simpa [Act.status?] using kept.destroy step
  | drop => simpa [Act.status?] using kept.drop step
  | reap interruptions => simpa [Act.status?] using kept.reap step

/-- What cannot happen changes nothing; the child ends only once. -/
theorem stay (kept : Kept ending v) {act : Act} (step : v.step? act = none) :
    Kept (ending.or act.status?) v := by
  cases act with
  | finish status =>
      cases ending with
      | none =>
          have running := kept.tidy.running_of_none
          simp [step?, running] at step
      | some _ => exact kept
  | _ => simpa [Act.status?] using kept

/-- Many steps keep what holds. -/
theorem play (kept : Kept ending v) (acts : List Act) :
    Kept (ending.or (acts.findSome? Act.status?)) (v.play acts) := by
  induction acts generalizing ending v with
  | nil => simpa [Vigil.play] using kept
  | cons act acts inductionHypothesis =>
      have later : Kept (ending.or act.status?) ((v.step? act).getD v) := by
        cases step : v.step? act with
        | none => exact kept.stay step
        | some next => exact kept.step step
      have whole := inductionHypothesis later
      rw [Option.or_assoc] at whole
      rw [List.findSome?_cons]
      cases status : act.status? with
      | none => simpa [Vigil.play, status] using whole
      | some _ => simpa [Vigil.play, status] using whole

end Kept

theorem kept_fresh : Kept none {} :=
  ⟨.unknown (by simp) nofun, nofun, fun _ => nofun, nofun⟩

end

/-! ## What callers and the system see -/

section

variable {ending : Option Int} {v : Vigil}

theorem not_keepsEntry_collected {status : Int} :
    ¬(Deed.asked (.ok status)).keepsEntry = true := by
  simp [Deed.keepsEntry]

theorem filterMap_status?_of_futile {deeds : List Deed}
    (futile : ∀ deed ∈ deeds, deed.keepsEntry = true) : deeds.filterMap Deed.status? = [] := by
  rw [List.filterMap_eq_nil_iff]
  intro deed inner
  cases deed with
  | signalled => rfl
  | asked reply =>
      cases reply with
      | ok status => exact absurd (futile _ inner) not_keepsEntry_collected
      | error errno => rfl

/-- The drop begins when nobody waits. -/
theorem exists_drop (inUse : v.tenancy = .held) (idle : v.waits.all Standing.isAnswered = true) :
    ∃ next, v.step? .drop = some next ∧ next.tenancy ≠ .held := by
  simp only [step?, inUse, idle, and_self, if_true]
  split
  · exact ⟨_, rfl, by simp⟩
  · exact ⟨_, rfl, by simp⟩

theorem finished (v : Vigil) (status : Int) :
    ((v.step? (.finish status)).getD v).entry ≠ .running ∧
      ((v.step? (.finish status)).getD v).tenancy = v.tenancy := by
  by_cases running : v.entry = .running
  · simp [step?, running]
  · simp [step?, running]

namespace Kept

/-- The status was collected once, or the system still keeps it for a handle in use. -/
theorem collections_eq (kept : Kept ending v) :
    (v.collections = [] ∧ v.entry ≠ .gone ∧ v.tenancy ≠ .dropped) ∨
      ∃ status, ending = some status ∧ v.collections = [status] := by
  rcases kept.tidy.deeds_eq with ⟨there, undropped, futile⟩ | ⟨status, before, ended, futile, deeds⟩
  · exact .inl ⟨filterMap_status?_of_futile futile, there, undropped⟩
  · refine .inr ⟨status, ended, ?_⟩
    simp [collections, deeds, filterMap_status?_of_futile futile, Deed.status?]

/-- The collection is the last call to the system. -/
theorem eq_nil_of_collected (kept : Kept ending v) {before after : List Deed} {status : Int}
    (deeds : v.deeds = before ++ .asked (.ok status) :: after) : after = [] := by
  rcases kept.tidy.deeds_eq with ⟨_, _, futile⟩ | ⟨_, earlier, _, futile, last⟩
  · have inside : Deed.asked (.ok status) ∈ v.deeds := by simp [deeds]
    exact absurd (futile _ inside) not_keepsEntry_collected
  · rcases List.eq_nil_or_concat after with none | ⟨between, deed, rfl⟩
    · exact none
    · rw [last, List.concat_eq_append, ← List.cons_append, ← List.append_assoc] at deeds
      have same : earlier = before ++ .asked (.ok status) :: between :=
        (List.append_inj' deeds rfl).1
      have inside : Deed.asked (.ok status) ∈ earlier := by simp [same]
      exact absurd (futile _ inside) not_keepsEntry_collected

/-- Asking for the status fails only by being interrupted. -/
theorem interrupted_of_failed (kept : Kept ending v) {errno : Errno}
    (failed : .asked (.error errno) ∈ v.deeds) : errno = .interrupted := by
  rcases kept.tidy.deeds_eq with ⟨_, _, futile⟩ | ⟨_, earlier, _, futile, last⟩
  · simpa [Deed.keepsEntry] using futile _ failed
  · rw [last] at failed
    rcases List.mem_append.mp failed with before | asked
    · simpa [Deed.keepsEntry] using futile _ before
    · simp at asked

/-- Whoever is back was interrupted or has the exit value of the status that was collected. -/
theorem answer_eq (kept : Kept ending v) {reply : Except Fault Int}
    (answered : .answered reply ∈ v.waits) :
    reply = .error .interrupted ∨
      ∃ status, v.collections = [status] ∧ reply = .ok (Ending.exitValueOfStatus status) := by
  rcases kept.fits _ answered with interrupted | ⟨status, ended, gone, answer⟩
  · exact .inl interrupted
  · rcases kept.collections_eq with ⟨_, there, _⟩ | ⟨_, same, collected⟩
    · exact absurd gone there
    · rw [ended] at same
      cases same
      exact .inr ⟨status, collected, answer⟩

/-! ### Nobody is stuck -/

/-- Collecting, which is done under the lock, does not wait for the child. -/
theorem isSome_collect (kept : Kept ending v) {i : Nat} (found : v.waits[i]? = some .collecting)
    (interruptions : Nat) : (v.step? (.collect i interruptions)).isSome = true := by
  have ended : v.entry ≠ .running := kept.fits _ (List.mem_of_getElem? found)
  have undropped : v.tenancy ≠ .dropped := by simp [kept.held found rfl]
  simp only [step?, found]
  cases isKnown : v.handle.exitValue? with
  | some value => rfl
  | none =>
      obtain ⟨entry, _, _⟩ := kept.tidy.of_unknown undropped isKnown
      cases ending with
      | none => exact absurd entry ended
      | some status => simp [ask?_of_ended entry]

/-- The drop is over once the child has ended. -/
theorem tenancy_reap (kept : Kept ending v) (ended : v.entry ≠ .running)
    (released : v.tenancy ≠ .held) (interruptions : Nat) :
    ((v.step? (.reap interruptions)).getD v).tenancy = .dropped := by
  cases tenancy : v.tenancy with
  | held => contradiction
  | dropped => simp [step?, tenancy]
  | dropping =>
      have tidy := kept.tidy
      rw [tenancy] at tidy
      obtain ⟨entry, _, _⟩ := tidy.of_unknown (by simp) tidy.unknown_of_dropping
      cases ending with
      | none => contradiction
      | some status => simp [step?, tenancy, ask?_of_ended entry]

/-- A handle that nobody waits with is dropped as soon as the child has ended. -/
theorem tenancy_drop (kept : Kept ending v) (inUse : v.tenancy = .held)
    (idle : v.waits.all Standing.isAnswered = true) (status : Int) (interruptions : Nat) :
    (v.play [.drop, .finish status, .reap interruptions]).tenancy = .dropped := by
  obtain ⟨w, dropped, released⟩ := exists_drop inUse idle
  have later : Kept ending w := kept.drop dropped
  obtain ⟨ended, same⟩ := finished w status
  have finish : Kept _ (w.play [.finish status]) := later.play [.finish status]
  have whole : v.play [.drop, .finish status, .reap interruptions] =
      (w.play [.finish status]).play [.reap interruptions] := by
    simp only [Vigil.play, List.foldl_cons, List.foldl_nil, dropped, Option.getD_some]
  rw [whole]
  exact finish.tenancy_reap ended (by rwa [← same] at released) interruptions

end Kept

end

/-! ## Whatever happens -/

/-- Waiting for a child without anybody else waiting is a wait of one caller. -/
theorem wait_eq_play (handle : Handle) (entry : Entry) :
    let v := play { entry, handle } [.begin, .look 0, .await 0 false, .collect 0 0]
    handle.wait entry =
      match v.waits with
      | [.answered (.ok value)] => (.exited value, v.handle)
      | [.answered (.error fault)] => (.failed fault, v.handle)
      | _ => (.pending, v.handle) := by
  rcases handle with ⟨value?⟩
  cases value? with
  | some value => rfl
  | none => cases entry <;> rfl

/-- Whatever callers do with a handle, and in whatever order, from when the child begins to run.

* The status is asked for until it is collected.  That happens once in the life of the handle, at
  the latest when it is dropped, and only an interruption makes an attempt fail.
* It is the last call to the system that concerns the child: no signal is sent afterwards.
* What was collected is how the child has ended.
* Whoever waited comes back with the exit value of that status, which is the same for all, or
  was interrupted; whoever destroyed the child has not failed.
* Whoever has seen the end of the child need not wait for it under the lock, once the child has
  ended nobody has to wait, and a handle that nobody waits with can be dropped. -/
theorem collects_once (acts : List Act) :
    let v := play {} acts
    (v.collections.length ≤ 1 ∧ (v.tenancy = .dropped → v.collections.length = 1)) ∧
    (∀ errno, .asked (.error errno) ∈ v.deeds → errno = .interrupted) ∧
    (∀ before status after, v.deeds = before ++ .asked (.ok status) :: after → after = []) ∧
    (∀ status ∈ v.collections, acts.findSome? Act.status? = some status) ∧
    (∀ reply, .answered reply ∈ v.waits →
      reply = .error .interrupted ∨
        ∃ status, v.collections = [status] ∧ reply = .ok (Ending.exitValueOfStatus status)) ∧
    (∀ reply ∈ v.kills, reply = .ok ()) ∧
    (∀ i interruptions, v.waits[i]? = some .collecting →
      (v.step? (.collect i interruptions)).isSome = true) ∧
    (∀ i, v.waits[i]? = some .awaiting → v.entry ≠ .running →
      (v.step? (.await i false)).isSome = true) ∧
    (v.tenancy = .held → v.waits.all Standing.isAnswered = true → ∀ status interruptions,
      (v.play [.drop, .finish status, .reap interruptions]).tenancy = .dropped) := by
  intro v
  have kept : Kept (acts.findSome? Act.status?) v := by simpa using kept_fresh.play acts
  refine ⟨?_, fun _ => kept.interrupted_of_failed, fun _ _ _ => kept.eq_nil_of_collected, ?_,
    fun _ => kept.answer_eq, kept.killed, fun _ n found => kept.isSome_collect found n, ?_,
    fun inUse idle => kept.tenancy_drop inUse idle⟩
  · rcases kept.collections_eq with ⟨none, _, undropped⟩ | ⟨status, _, one⟩
    · exact ⟨by simp [none], fun dropped => absurd dropped undropped⟩
    · simp [one]
  · intro status collected
    rcases kept.collections_eq with ⟨none, _, _⟩ | ⟨_, ended, one⟩
    · simp [none] at collected
    · rw [one] at collected
      rw [ended, List.mem_singleton.mp collected]
  · intro i found ended
    cases awaited : v.entry.awaitEnd? with
    | none => cases entry : v.entry <;> simp_all [Entry.awaitEnd?]
    | some reply =>
        obtain ⟨passed, _⟩ := afterWait_awaitEnd awaited
        simp [step?, found, awaited, passed]

end Vigil

end Overseer.Machine
