import Mathlib.Data.List.DropRight
import Overseer.Proofs.Pump.Collection
import Overseer.Proofs.Pump.Delivery
import Overseer.Pump.Session

/-!
# Pumps of many sessions

Somebody makes sessions of one stream handler, binds streams to them, and starts and stops them
time and again.  In between their pumps go on step by step, in any order, and get in each other's
way only where they share sinks and the source.  What stopping a session reports can be told from
what its own pumps have recorded since it was last started.
-/

namespace Overseer.Pump

variable {σ α : Type}

/-- What the calls that a pump may make next are answered. -/
structure Answers where
  /-- The answer to a read. -/
  read : ReadReply
  /-- The answer to a write. -/
  write : WriteReply
  /-- The answer to a close. -/
  close : Except Fault Unit

/-- One step of the pump of a stream that has not ended. -/
def Work.step (kind : SinkKind σ) (answers : Answers) (stream : StandardStream)
    (shared : Shared σ) : Work → Work × Shared σ
  | feeding stage =>
      let (stage, source) :=
        stage.step answers.write answers.close (shared.source.getD { remaining := [] })
      (feeding stage, { shared with source := shared.source.map fun _ => source })
  | draining stage =>
      let (stage, sink) := stage.step kind answers.read (shared.sink stream)
      (draining stage, shared.setSink stream sink)

/-- A pump of a session. -/
structure Job (α : Type) where
  /-- The session it belongs to. -/
  session : Nat
  /-- The stream. -/
  stream : StandardStream
  /-- What is bound to the stream. -/
  what : α
  /-- What it is at. -/
  work : Work := .begin stream

/-- The sessions of a stream handler, and their pumps. -/
structure Station (σ α : Type) where
  /-- What the pumps share. -/
  shared : Shared σ
  /-- The sessions; the handler is the first one itself. -/
  sessions : List (Session α) := [{}]
  /-- The pumps that were started and not joined. -/
  jobs : List (Job α) := []

namespace Station

/-- What somebody does with a session, or a pump by itself. -/
inductive Act (α : Type)
  /-- A session is made. -/
  | create
  /-- A stream is bound. -/
  | bind (i : Nat) (stream : StandardStream) (what : α)
  /-- The pumps are started. -/
  | start (i : Nat)
  /-- A pump goes on. -/
  | goOn (k : Nat) (answers : Answers)
  /-- The session is stopped, if its pumps have ended. -/
  | stop (i : Nat)

/-- What is remembered of an act. -/
inductive Incident
  /-- The pumps of a session were started. -/
  | started (i : Nat)
  /-- A pump of a session has recorded its fault. -/
  | recorded (i : Nat) (fault : Fault)
  /-- A session was stopped. -/
  | stopped (i : Nat)
deriving DecidableEq

namespace Incident

/-- The session that an incident is about. -/
def session : Incident → Nat
  | started i | recorded i _ | stopped i => i

/-- The fault that a pump of a session has recorded. -/
def recordedBy? (i : Nat) : Incident → Option Fault
  | recorded k fault => if k = i then some fault else none
  | _ => none

end Incident

/-- What was remembered since a session was last started, or from the beginning if it was not. -/
def sinceStart (i : Nat) (history : List Incident) : List Incident :=
  history.rtakeWhile (· ≠ .started i)

/-- The faults that pumps of a session have recorded since it was last started. -/
def faultsSinceStart (i : Nat) (history : List Incident) : List Fault :=
  (sinceStart i history).filterMap (Incident.recordedBy? i)

/-- Change a session. -/
def updateSession (st : Station σ α) (i : Nat) (f : Session α → Session α) : Station σ α :=
  { st with sessions := st.sessions.modify i f }

/-- The pumps that starting a session adds. -/
def startedJobs (i : Nat) (s : Session α) : List (Job α) :=
  (s.start.pumps.drop s.pumps.length).map fun (stream, what) => { session := i, stream, what }

/-- The station after a session was stopped whose pumps have ended. -/
def join (st : Station σ α) (i : Nat) : Station σ α :=
  { st.updateSession i (fun s => s.stop.2) with jobs := st.jobs.filter (·.session ≠ i) }

/-- What stopping a session reports, and what it leaves, unless it has to wait for a pump. -/
def stop? (st : Station σ α) (i : Nat) : Option (Except Fault Unit × Station σ α) :=
  match st.sessions[i]? with
  | none => none
  | some s =>
      if ∀ job ∈ st.jobs, job.session = i → job.work.isDone = true then some (s.stop.1, st.join i)
      else none

/-- Let a pump go on; once it has ended its session takes note of its fault. -/
def goOn (kind : SinkKind σ) (st : Station σ α) (k : Nat) (answers : Answers) : Station σ α :=
  match st.jobs[k]? with
  | none => st
  | some job =>
      match job.work.ending? with
      | some none => st
      | some (some fault) =>
          { st.updateSession job.session (·.record fault) with
            jobs := st.jobs.set k { job with work := job.work.done } }
      | none =>
          let (work, shared) := job.work.step kind answers job.stream st.shared
          { st with shared, jobs := st.jobs.set k { job with work } }

/-- The station after an act. -/
def act (kind : SinkKind σ) (st : Station σ α) : Act α → Station σ α
  | .create => { st with sessions := st.sessions ++ [{}] }
  | .bind i stream what =>
      -- Without a source there is nothing to feed a process, whose stream is closed at once.
      let bound := if stream = .input ∧ st.shared.source.isNone then none else some what
      st.updateSession i (·.bind stream bound)
  | .start i =>
      match st.sessions[i]? with
      | none => st
      | some s =>
          { st.updateSession i Session.start with jobs := st.jobs ++ startedJobs i s }
  | .goOn k answers => st.goOn kind k answers
  | .stop i => ((st.stop? i).map Prod.snd).getD st

/-- What is remembered of an act. -/
def incident? (st : Station σ α) : Act α → Option Incident
  | .create | .bind .. => none
  | .start i => st.sessions[i]?.map fun _ => .started i
  | .goOn k _ =>
      st.jobs[k]?.bind fun job => job.work.ending?.join.map (Incident.recorded job.session)
  | .stop i => (st.stop? i).map fun _ => .stopped i

/-- The station after one act and then another. -/
def play (kind : SinkKind σ) (st : Station σ α) (acts : List (Act α)) : Station σ α :=
  acts.foldl (act kind) st

/-- What is remembered of acts, in order. -/
def history (kind : SinkKind σ) : Station σ α → List (Act α) → List Incident
  | _, [] => []
  | st, a :: acts => (st.incident? a).toList ++ history kind (st.act kind a) acts

/-! ## What is remembered -/

/-- What a session has to report: the first fault that one of its pumps has recorded since it was
last started, unless it was stopped in the meantime. -/
def due (i : Nat) (history : List Incident) : Option Fault :=
  if .stopped i ∈ sinceStart i history then none else (faultsSinceStart i history).head?

section

variable {i : Nat} {history : List Incident} {incident : Incident}

theorem sinceStart_append (incident : Incident) :
    sinceStart i (history ++ [incident]) =
      if incident = .started i then [] else sinceStart i history ++ [incident] := by
  unfold sinceStart
  rw [List.rtakeWhile_concat]
  by_cases started : incident = .started i
  · simp [started]
  · simp [started]

theorem mem_of_mem_sinceStart (found : incident ∈ sinceStart i history) : incident ∈ history :=
  (List.rtakeWhile_suffix _ _).subset found

/-- Incidents of other sessions make no difference. -/
theorem due_append_of_ne (other : incident.session ≠ i) :
    due i (history ++ [incident]) = due i history := by
  have notStarted : incident ≠ .started i := by
    rintro rfl
    exact other rfl
  have notStopped : .stopped i ≠ incident := by
    rintro rfl
    exact other rfl
  have notRecorded : incident.recordedBy? i = none := by
    cases incident with
    | recorded k fault => exact if_neg other
    | started k | stopped k => rfl
  simp [due, faultsSinceStart, sinceStart_append, notStarted, notStopped, notRecorded]

theorem due_append_started : due i (history ++ [.started i]) = none := by
  simp [due, faultsSinceStart, sinceStart_append]

theorem due_append_stopped : due i (history ++ [.stopped i]) = none := by
  simp [due, sinceStart_append]

theorem due_append_recorded (going : .stopped i ∉ sinceStart i history) (fault : Fault) :
    due i (history ++ [.recorded i fault]) = (due i history).or (some fault) := by
  simp [due, faultsSinceStart, sinceStart_append, going, Incident.recordedBy?]

/-- A session that nothing is remembered of has nothing to report. -/
theorem due_of_unknown (unknown : ∀ incident ∈ history, incident.session ≠ i) :
    due i history = none := by
  have nothing : faultsSinceStart i history = [] := by
    apply List.filterMap_eq_nil_iff.mpr
    intro incident found
    have other := unknown incident (mem_of_mem_sinceStart found)
    cases incident with
    | recorded k fault => exact if_neg other
    | started k | stopped k => rfl
  simp [due, nothing]

end

/-! ## What acts do -/

section

variable {kind : SinkKind σ} {st : Station σ α} {history : List Incident} {i k : Nat}
  {s : Session α}

theorem getElem?_updateSession (f : Session α → Session α) :
    (st.updateSession i f).sessions[k]? =
      if i = k then st.sessions[k]?.map f else st.sessions[k]? := by
  unfold updateSession
  rw [List.getElem?_modify]
  split
  · rfl
  · exact Option.map_id'

@[simp]
theorem length_updateSession (f : Session α → Session α) :
    (st.updateSession i f).sessions.length = st.sessions.length :=
  List.length_modify ..

theorem stop?_eq_some_iff {report : Except Fault Unit} {st' : Station σ α} :
    st.stop? i = some (report, st') ↔
      ∃ s, st.sessions[i]? = some s ∧
        (∀ job ∈ st.jobs, job.session = i → job.work.isDone = true) ∧ report = s.stop.1 ∧
        st' = st.join i := by
  unfold stop?
  cases st.sessions[i]? with
  | none => simp
  | some s =>
      dsimp only
      split
      · next done =>
          constructor
          · intro stopped
            obtain ⟨rfl, rfl⟩ := Prod.mk.inj (Option.some.inj stopped)
            exact ⟨s, rfl, done, rfl, rfl⟩
          · rintro ⟨_, same, _, rfl, rfl⟩
            rw [Option.some.inj same]
      · next waits =>
          refine iff_of_false nofun ?_
          rintro ⟨_, _, done, _⟩
          exact waits done

/-- A pump that goes on stays a pump of its session. -/
theorem exists_mem_of_mem_set {job job' : Job α} {work : Work} (found : st.jobs[k]? = some job)
    (mem : job' ∈ st.jobs.set k { job with work }) :
    ∃ before ∈ st.jobs, job'.session = before.session := by
  rcases List.mem_or_eq_of_mem_set mem with before | rfl
  · exact ⟨job', before, rfl⟩
  · exact ⟨job, List.mem_of_getElem? found, rfl⟩

/-- Pumps that are started are pumps of the session that starts them. -/
theorem session_of_mem_startedJobs {job : Job α} (started : job ∈ startedJobs i s) :
    job.session = i := by
  obtain ⟨_, _, rfl⟩ := List.mem_map.mp started
  rfl

/-- A station is as what is remembered has left it. -/
structure Agrees (st : Station σ α) (history : List Incident) : Prop where
  /-- A session holds what it has to report. -/
  holds : ∀ i s, st.sessions[i]? = some s → s.firstFault = due i history
  /-- A session that was stopped has no pumps. -/
  idle : ∀ i, .stopped i ∈ sinceStart i history → ∀ job ∈ st.jobs, job.session ≠ i
  /-- Pumps belong to sessions. -/
  present : ∀ job ∈ st.jobs, job.session < st.sessions.length
  /-- What is remembered is about sessions. -/
  known : ∀ incident ∈ history, incident.session < st.sessions.length

namespace Agrees

/-- Nothing changes that has to do with faults. -/
theorem keep (agrees : st.Agrees history) {st' : Station σ α}
    (length : st.sessions.length ≤ st'.sessions.length)
    (sessions : ∀ (i : Nat) (s' : Session α), st'.sessions[i]? = some s' →
      s'.firstFault = st.sessions[i]?.bind Session.firstFault)
    (jobs : ∀ job' ∈ st'.jobs, ∃ job ∈ st.jobs, job'.session = job.session) :
    st'.Agrees history where
  holds := by
    intro i s' found
    rw [sessions i s' found]
    cases before : st.sessions[i]? with
    | some s => exact agrees.holds i s before
    | none =>
        refine (due_of_unknown fun incident remembered => ?_).symm
        have less := agrees.known incident remembered
        have outside := List.getElem?_eq_none_iff.mp before
        omega
  idle := by
    intro i stopped job' found
    obtain ⟨job, found, same⟩ := jobs job' found
    rw [same]
    exact agrees.idle i stopped job found
  present := by
    intro job' found
    obtain ⟨job, found, same⟩ := jobs job' found
    rw [same]
    exact Nat.lt_of_lt_of_le (agrees.present job found) length
  known incident found := Nat.lt_of_lt_of_le (agrees.known incident found) length

/-- What a session holds changes as it is remembered. -/
theorem change (agrees : st.Agrees history) {st' : Station σ α} (incident : Incident)
    (f : Session α → Session α)
    (sessions : st'.sessions = (st.updateSession incident.session f).sessions)
    (about : incident.session < st.sessions.length)
    (changed : ∀ s : Session α, s.firstFault = due incident.session history →
      (f s).firstFault = due incident.session (history ++ [incident]))
    (idle : ∀ i, .stopped i ∈ sinceStart i (history ++ [incident]) →
      ∀ job ∈ st'.jobs, job.session ≠ i)
    (present : ∀ job ∈ st'.jobs, job.session < st.sessions.length) :
    st'.Agrees (history ++ [incident]) where
  holds := by
    intro i s' found
    rw [sessions, getElem?_updateSession] at found
    by_cases same : incident.session = i
    · subst same
      rw [if_pos rfl, Option.map_eq_some_iff] at found
      obtain ⟨s, found, rfl⟩ := found
      exact changed s (agrees.holds _ s found)
    · rw [if_neg same] at found
      rw [due_append_of_ne same]
      exact agrees.holds i s' found
  idle := idle
  present := by
    rw [sessions, length_updateSession]
    exact present
  known := by
    rw [sessions, length_updateSession]
    intro other found
    rcases List.mem_append.mp found with before | now
    · exact agrees.known other before
    · rw [List.mem_singleton.mp now]
      exact about

theorem create (agrees : st.Agrees history) : (st.act kind .create).Agrees history := by
  refine agrees.keep (by simp [Station.act]) ?_ fun job found => ⟨job, found, rfl⟩
  intro i s' found
  change (st.sessions ++ [({} : Session α)])[i]? = some s' at found
  rcases Nat.lt_or_ge i st.sessions.length with inside | outside
  · rw [List.getElem?_append_left inside] at found
    rw [found]
    rfl
  · rw [List.getElem?_append_right outside, List.getElem?_singleton] at found
    rw [List.getElem?_eq_none_iff.mpr outside]
    split at found
    · rw [← Option.some.inj found]
      rfl
    · contradiction

theorem bind (agrees : st.Agrees history) (i : Nat) (stream : StandardStream) (what : α) :
    (st.act kind (.bind i stream what)).Agrees history := by
  refine agrees.keep (Nat.le_of_eq (length_updateSession _).symm) ?_
    fun job found => ⟨job, found, rfl⟩
  intro k s' found
  change (st.updateSession i _).sessions[k]? = some s' at found
  rw [getElem?_updateSession] at found
  split at found
  · obtain ⟨s, before, rfl⟩ := Option.map_eq_some_iff.mp found
    rw [before]
    rfl
  · rw [found]
    rfl

theorem start (agrees : st.Agrees history) (i : Nat) :
    (st.act kind (.start i)).Agrees (history ++ (st.incident? (.start i)).toList) := by
  simp only [Station.act, incident?]
  cases found : st.sessions[i]? with
  | none => simpa using agrees
  | some s =>
      have inside : i < st.sessions.length := (List.getElem?_eq_some_iff.mp found).1
      refine agrees.change (.started i) Session.start rfl inside ?_ ?_ ?_
      · intro s _
        exact due_append_started.symm
      · intro k stopped job found
        rw [sinceStart_append] at stopped
        split at stopped
        · contradiction
        · next other =>
            rw [List.mem_append, List.mem_singleton] at stopped
            rcases List.mem_append.mp found with before | new
            · exact agrees.idle k (stopped.resolve_right nofun) job before
            · rw [session_of_mem_startedJobs new]
              rintro rfl
              exact other rfl
      · intro job found
        rcases List.mem_append.mp found with before | new
        · exact agrees.present job before
        · rw [session_of_mem_startedJobs new]
          exact inside

theorem goOn (agrees : st.Agrees history) (k : Nat) (answers : Answers) :
    (st.act kind (.goOn k answers)).Agrees
      (history ++ (st.incident? (.goOn k answers)).toList) := by
  simp only [Station.act, Station.goOn, incident?]
  cases found : st.jobs[k]? with
  | none => simpa using agrees
  | some job =>
      have known : job ∈ st.jobs := List.mem_of_getElem? found
      dsimp only
      split
      · next done => simpa [done] using agrees
      · next fault ended =>
          simp only [ended, Option.bind_some, Option.join_some, Option.map_some,
            Option.toList_some]
          refine agrees.change (.recorded job.session fault) (·.record fault) rfl
            (agrees.present job known) ?_ ?_ ?_
          · intro s holds
            -- Stopping waits for the pumps, so a pump that records belongs to a running session.
            have going : .stopped job.session ∉ sinceStart job.session history :=
              fun stopped => agrees.idle _ stopped job known rfl
            rw [Incident.session, due_append_recorded going]
            exact congrArg (·.or (some fault)) holds
          · intro i stopped job' mem
            obtain ⟨before, mem, same⟩ := exists_mem_of_mem_set found mem
            rw [sinceStart_append, if_neg nofun, List.mem_append, List.mem_singleton] at stopped
            rw [same]
            exact agrees.idle i (stopped.resolve_right nofun) before mem
          · intro job' mem
            obtain ⟨before, mem, same⟩ := exists_mem_of_mem_set found mem
            rw [same]
            exact agrees.present before mem
      · next going =>
          have nothing : history ++ (Option.map (Incident.recorded job.session)
              job.work.ending?.join).toList = history := by simp [going]
          rw [Option.bind_some, nothing]
          refine agrees.keep (Nat.le_refl _) ?_ fun _ => exists_mem_of_mem_set found
          intro i s' found
          rw [found]
          rfl

theorem stop (agrees : st.Agrees history) (i : Nat) :
    (st.act kind (.stop i)).Agrees (history ++ (st.incident? (.stop i)).toList) := by
  simp only [Station.act, incident?]
  cases stopped : st.stop? i with
  | none => simpa using agrees
  | some result =>
      obtain ⟨s, found, -, -, left⟩ := stop?_eq_some_iff.mp stopped
      simp only [Option.map_some, Option.getD_some, Option.toList_some, left]
      refine agrees.change (.stopped i) (fun s => s.stop.2) rfl
        (List.getElem?_eq_some_iff.mp found).1 ?_ ?_ ?_
      · intro s _
        exact due_append_stopped.symm
      · intro k stopped job found
        obtain ⟨before, other⟩ := List.mem_filter.mp found
        rw [sinceStart_append, if_neg nofun, List.mem_append, List.mem_singleton] at stopped
        rcases stopped with already | now
        · exact agrees.idle k already job before
        · obtain rfl := Incident.stopped.inj now
          simpa using other
      · intro job found
        exact agrees.present job (List.mem_filter.mp found).1

theorem act (agrees : st.Agrees history) (a : Act α) :
    (st.act kind a).Agrees (history ++ (st.incident? a).toList) := by
  cases a with
  | create => simpa [incident?] using agrees.create
  | bind i stream what => simpa [incident?] using agrees.bind i stream what
  | start i => exact agrees.start i
  | goOn k answers => exact agrees.goOn k answers
  | stop i => exact agrees.stop i

theorem play (agrees : st.Agrees history) (acts : List (Act α)) :
    (st.play kind acts).Agrees (history ++ st.history kind acts) := by
  induction acts generalizing st history with
  | nil => simpa [Station.play, Station.history] using agrees
  | cons a acts inductionHypothesis =>
      have next : (st.act kind a).Agrees (history ++ (st.incident? a).toList) := agrees.act a
      have later := inductionHypothesis next
      rw [List.append_assoc] at later
      exact later

/-- A station where nothing has been done yet agrees with that. -/
theorem fresh (shared : Shared σ) : Agrees ({ shared } : Station σ α) [] where
  holds i s found := by
    rw [List.getElem?_singleton] at found
    split at found
    · rw [← Option.some.inj found]
      rfl
    · contradiction
  idle _ stopped := absurd stopped List.not_mem_nil
  present _ found := absurd found List.not_mem_nil
  known _ found := absurd found List.not_mem_nil

end Agrees

end

end Station

/-! ## What stopping leaves -/

namespace Session

/-- Nothing is bound to a session, and it has nothing to report. -/
structure IsClean (s : Session α) : Prop where
  /-- No stream is bound. -/
  unbound : ∀ stream, s.bound stream = none
  /-- It holds no fault. -/
  faultless : s.firstFault = none

variable {s : Session α}

theorem isClean_new : IsClean ({} : Session α) :=
  ⟨fun _ => rfl, rfl⟩

theorem IsClean.start (clean : s.IsClean) : s.start.IsClean :=
  ⟨clean.unbound, rfl⟩

theorem IsClean.startedJobs (clean : s.IsClean) (i : Nat) : Station.startedJobs i s = [] := by
  simp [Station.startedJobs, Session.start, clean.unbound]

theorem IsClean.stop (clean : s.IsClean) : s.stop.1 = .ok () := by
  simp [Session.stop, clean.faultless]

theorem stop_eq_error_iff {fault : Fault} :
    s.stop.1 = .error fault ↔ s.firstFault = some fault := by
  unfold stop
  cases s.firstFault with
  | none => simp
  | some first => simp

end Session

namespace Station

/-- A session is as if it were new: nothing is bound to it, it has nothing to report, and it has
no pumps. -/
structure IsClean (st : Station σ α) (i : Nat) : Prop where
  /-- The session itself is clean. -/
  session : ∃ s, st.sessions[i]? = some s ∧ s.IsClean
  /-- It has no pumps. -/
  idle : ∀ job ∈ st.jobs, job.session ≠ i

section

variable {kind : SinkKind σ} {st : Station σ α} {i : Nat}

namespace IsClean

/-- Changing another session makes no difference, nor does a change that leaves a clean session
clean. -/
theorem update (clean : st.IsClean i) {st' : Station σ α} (k : Nat) (f : Session α → Session α)
    (sessions : st'.sessions = (st.updateSession k f).sessions)
    (own : k = i → ∀ s : Session α, s.IsClean → (f s).IsClean)
    (idle : ∀ job ∈ st'.jobs, job.session ≠ i) : st'.IsClean i where
  session := by
    obtain ⟨s, found, unused⟩ := clean.session
    rw [sessions, getElem?_updateSession, found]
    by_cases same : k = i
    · exact ⟨f s, if_pos same, own same s unused⟩
    · exact ⟨s, if_neg same, unused⟩
  idle := idle

theorem goOn (clean : st.IsClean i) (k : Nat) (answers : Answers) :
    (st.goOn kind k answers).IsClean i := by
  unfold Station.goOn
  cases found : st.jobs[k]? with
  | none => exact clean
  | some job =>
      have idle : ∀ work, ∀ job' ∈ st.jobs.set k { job with work }, job'.session ≠ i := by
        intro work job' mem
        obtain ⟨before, mem, same⟩ := exists_mem_of_mem_set found mem
        rw [same]
        exact clean.idle before mem
      dsimp only
      split
      · exact clean
      · refine clean.update job.session _ rfl ?_ (idle _)
        intro same
        exact absurd same (clean.idle job (List.mem_of_getElem? found))
      · exact ⟨clean.session, idle _⟩

theorem act (clean : st.IsClean i) (a : Act α) (unbound : ∀ stream what, a ≠ .bind i stream what) :
    (st.act kind a).IsClean i := by
  cases a with
  | create =>
      obtain ⟨s, found, unused⟩ := clean.session
      have inside : i < st.sessions.length := (List.getElem?_eq_some_iff.mp found).1
      exact ⟨⟨s, (List.getElem?_append_left inside).trans found, unused⟩, clean.idle⟩
  | bind k stream what =>
      refine clean.update k _ rfl ?_ clean.idle
      rintro rfl
      exact absurd rfl (unbound stream what)
  | start k =>
      simp only [Station.act]
      cases found : st.sessions[k]? with
      | none => exact clean
      | some s =>
          refine clean.update k Session.start rfl (fun _ _ => Session.IsClean.start) ?_
          intro job mem
          rcases List.mem_append.mp mem with before | new
          · exact clean.idle job before
          · rw [session_of_mem_startedJobs new]
            rintro rfl
            obtain ⟨s', found', unused⟩ := clean.session
            obtain rfl := Option.some.inj (found.symm.trans found')
            rw [unused.startedJobs] at new
            contradiction
  | goOn k answers => exact clean.goOn k answers
  | stop k =>
      simp only [Station.act]
      cases stopped : st.stop? k with
      | none => exact clean
      | some result =>
          obtain ⟨s, -, -, -, left⟩ := stop?_eq_some_iff.mp stopped
          rw [Option.map_some, Option.getD_some, left]
          refine clean.update k _ rfl (fun _ _ _ => Session.isClean_new) ?_
          intro job mem
          exact clean.idle job (List.mem_filter.mp mem).1

/-- A clean session stays clean until something is bound to it. -/
theorem play (clean : st.IsClean i) (acts : List (Act α))
    (unbound : ∀ stream what, .bind i stream what ∉ acts) : (st.play kind acts).IsClean i := by
  induction acts generalizing st with
  | nil => exact clean
  | cons a acts inductionHypothesis =>
      refine inductionHypothesis (clean.act a ?_) ?_
      · rintro stream what rfl
        exact unbound stream what List.mem_cons_self
      · intro stream what mem
        exact unbound stream what (List.mem_cons_of_mem _ mem)

/-- Stopping a clean session does not wait, and reports nothing. -/
theorem stop? (clean : st.IsClean i) : st.stop? i = some (.ok (), st.join i) := by
  obtain ⟨s, found, unused⟩ := clean.session
  refine stop?_eq_some_iff.mpr ⟨s, found, ?_, unused.stop.symm, rfl⟩
  intro job mem own
  exact absurd own (clean.idle job mem)

end IsClean

/-- Stopping a session leaves it clean, whatever it reports. -/
theorem isClean_of_stop? {report : Except Fault Unit} {st' : Station σ α}
    (stopped : st.stop? i = some (report, st')) : st'.IsClean i := by
  obtain ⟨s, found, -, -, rfl⟩ := stop?_eq_some_iff.mp stopped
  refine ⟨⟨{}, ?_, Session.isClean_new⟩, ?_⟩
  · change (st.updateSession i _).sessions[i]? = _
    rw [getElem?_updateSession, found, if_pos rfl]
    rfl
  · intro job mem
    simpa using (List.mem_filter.mp mem).2

theorem isSome_stop?_iff : (st.stop? i).isSome ↔ i < st.sessions.length ∧
    ∀ job ∈ st.jobs, job.session = i → job.work.isDone = true := by
  rw [Option.isSome_iff_exists, Prod.exists]
  constructor
  · rintro ⟨report, st', stopped⟩
    obtain ⟨s, found, done, -⟩ := stop?_eq_some_iff.mp stopped
    exact ⟨(List.getElem?_eq_some_iff.mp found).1, done⟩
  · rintro ⟨inside, done⟩
    exact ⟨_, _, stop?_eq_some_iff.mpr ⟨_, List.getElem?_eq_getElem inside, done, rfl, rfl⟩⟩

end

theorem due_eq_some_iff {i : Nat} {history : List Incident} {fault : Fault} :
    due i history = some fault ↔ .stopped i ∉ sinceStart i history ∧
      (faultsSinceStart i history).head? = some fault := by
  unfold due
  split
  · next stopped => simp [stopped]
  · next going => simp [going]

/-- Whatever is done with the sessions of a handler, and however their pumps go on beside each
other, stopping a session waits for its own pumps only, and then:

* It reports a fault if and only if a pump of this session has recorded one since the session was
  last started, and it was not stopped in the meantime; it is the first that was recorded.
* No stream of the session stays bound.  Until something is bound to it again it has no pumps,
  also if it is started, and stopping it reports nothing. -/
theorem stop_reports_first_fault (kind : SinkKind σ) (shared : Shared σ) (acts : List (Act α))
    (i : Nat) :
    let st := play kind { shared } acts
    let past := history kind { shared } acts
    ((st.stop? i).isSome ↔ i < st.sessions.length ∧
      ∀ job ∈ st.jobs, job.session = i → job.work.isDone = true) ∧
    ∀ report st', st.stop? i = some (report, st') →
      (∀ fault, report = .error fault ↔
        .stopped i ∉ sinceStart i past ∧ (faultsSinceStart i past).head? = some fault) ∧
      (∃ s, st'.sessions[i]? = some s ∧ ∀ stream, s.bound stream = none) ∧
      ∀ later, (∀ stream what, .bind i stream what ∉ later) →
        (∀ job ∈ (st'.play kind later).jobs, job.session ≠ i) ∧
        ∃ st'', (st'.play kind later).stop? i = some (.ok (), st'') := by
  intro st past
  have agrees : st.Agrees past := (Agrees.fresh shared).play acts
  refine ⟨isSome_stop?_iff, ?_⟩
  intro report st' stopped
  have clean := isClean_of_stop? stopped
  obtain ⟨s, found, -, rfl, -⟩ := stop?_eq_some_iff.mp stopped
  refine ⟨?_, ?_, ?_⟩
  · intro fault
    rw [Session.stop_eq_error_iff, agrees.holds i s found, due_eq_some_iff]
  · obtain ⟨left, found_left, unused⟩ := clean.session
    exact ⟨left, found_left, unused.unbound⟩
  · intro later unbound
    have still : (st'.play kind later).IsClean i := clean.play later unbound
    exact ⟨still.idle, _, still.stop?⟩

/-- Two sessions work beside each other.  Both pumps of the first one fail, that of its errors
before that of its output, and the pump of the second one has failed before either of them. -/
def quarrel : List (Act Unit) :=
  let failing errno : Answers := { read := .failed errno, write := .taken 1, close := .ok () }
  [.create, .bind 0 .output (), .bind 0 .error (), .bind 1 .output (), .start 0, .start 1,
    .goOn 2 (failing .invalidArgument), .goOn 1 (failing .badDescriptor),
    .goOn 0 (failing .inputOutput), .goOn 2 (failing .interrupted), .goOn 1 (failing .interrupted),
    .goOn 0 (failing .interrupted)]

/-- The first session reports the fault that was recorded first, and nothing when it is started and
stopped once more. -/
theorem stop_reports_first_fault_quarrel :
    let shared : Shared Sink := { output := {}, error := none, source := none }
    ∃ st', (play Sink.kind { shared } quarrel).stop? 0 =
        some (.error (readFault .badDescriptor), st') ∧
      ∃ st'', (st'.play Sink.kind [.start 0]).stop? 0 = some (.ok (), st'') := by
  intro shared
  obtain ⟨waits, reports⟩ := stop_reports_first_fault Sink.kind shared quarrel 0
  obtain ⟨⟨report, st'⟩, stopped⟩ := Option.isSome_iff_exists.mp (waits.mpr (by decide))
  obtain ⟨first, -, later⟩ := reports report st' stopped
  have fault : report = .error (readFault .badDescriptor) := (first _).mpr (by decide)
  subst fault
  exact ⟨st', stopped, (later [.start 0] (by simp)).2⟩

end Station

end Overseer.Pump
