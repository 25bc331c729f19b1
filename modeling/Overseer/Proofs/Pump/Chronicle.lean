import Overseer.Proofs.Pump.Account

/-!
# Chronicles of pumps

A station knows the pumps that were not joined yet, and not what they have done.  A chronicle keeps
that beside it: all pumps that were ever started, with numbers, and everything they have done with
their streams and with what they share.
-/

namespace Overseer.Pump

variable {σ α : Type}

/-! ## Numbered entries -/

section

variable {β γ : Type} {n : Nat} {entries : List (Nat × β)}

/-- The entries with a number. -/
def entriesOf (n : Nat) (entries : List (Nat × β)) : List β :=
  entries.filterMap fun entry => if entry.1 = n then some entry.2 else none

/-- What is made of the entries of which something is made, with their numbers. -/
def pick (f : β → Option γ) (entries : List (Nat × β)) : List (Nat × γ) :=
  entries.filterMap fun entry => (f entry.2).map (entry.1, ·)

theorem entriesOf_append (others : List (Nat × β)) :
    entriesOf n (entries ++ others) = entriesOf n entries ++ entriesOf n others :=
  List.filterMap_append

theorem entriesOf_map (m : Nat) (values : List β) :
    entriesOf n (values.map (m, ·)) = if m = n then values else [] := by
  by_cases same : m = n
  · simp [entriesOf, same, List.filterMap_map]
  · simp [entriesOf, same, List.filterMap_map]

theorem entriesOf_eq_nil (other : ∀ entry ∈ entries, entry.1 ≠ n) : entriesOf n entries = [] := by
  refine List.filterMap_eq_nil_iff.mpr fun entry mem => ?_
  exact if_neg (other entry mem)

theorem mem_entriesOf {value : β} : value ∈ entriesOf n entries ↔ (n, value) ∈ entries := by
  simp [entriesOf]

theorem map_snd_pick (f : β → Option γ) :
    (pick f entries).map Prod.snd = entries.filterMap fun entry => f entry.2 := by
  simp [pick, List.map_filterMap, Function.comp_def]

theorem mem_pick {f : β → Option γ} {entry : Nat × γ} :
    entry ∈ pick f entries ↔ ∃ value, (entry.1, value) ∈ entries ∧ f value = some entry.2 := by
  simp only [pick, List.mem_filterMap, Option.map_eq_some_iff]
  constructor
  · rintro ⟨⟨m, value⟩, mem, result, made, rfl⟩
    exact ⟨value, mem, made⟩
  · rintro ⟨value, mem, made⟩
    exact ⟨(entry.1, value), mem, entry.2, made, rfl⟩

/-- Picking does not mix numbers. -/
theorem entriesOf_pick (f : β → Option γ) :
    entriesOf n (pick f entries) = (entriesOf n entries).filterMap f := by
  unfold entriesOf pick
  rw [List.filterMap_filterMap, List.filterMap_filterMap]
  congr 1
  funext entry
  by_cases same : entry.1 = n <;> cases made : f entry.2 <;> simp [same, made]

end

/-! ## Chronicles -/

namespace Station

section

variable (kind : SinkKind σ) (answers : Answers) {st : Station σ α} {k : Nat} {job : Job α}

theorem goOn_of_ended {fault : Option Fault} (found : st.jobs[k]? = some job)
    (ended : job.work.ending? = some fault) :
    (st.goOn kind k answers).jobs = st.jobs.set k { job with work := job.work.done } ∧
      (st.goOn kind k answers).shared = st.shared := by
  cases fault with
  | none =>
      have same : job.work.done = job.work := Work.done_of_isDone (decide_eq_true ended)
      obtain ⟨less, here⟩ := List.getElem?_eq_some_iff.mp found
      simp only [goOn, found, ended, same, and_true]
      exact here ▸ (List.set_getElem_self less).symm
  | some fault => simp only [goOn, found, ended, updateSession, and_self]

theorem goOn_of_going (found : st.jobs[k]? = some job) (going : job.work.ending? = none) :
    (st.goOn kind k answers).jobs = st.jobs.set k
        { job with work := (job.work.step kind answers job.stream st.shared).1 } ∧
      (st.goOn kind k answers).shared =
        (job.work.step kind answers job.stream st.shared).2 := by
  simp only [goOn, found, going, and_self]

end

end Station

/-- The sessions of a stream handler, and all that their pumps have done.  Pumps are numbered in the
order in which they were started. -/
structure Chronicle (σ α : Type) where
  /-- The sessions and the pumps that were not joined. -/
  station : Station σ α
  /-- All pumps that were ever started.  One that was joined is as it was then. -/
  pumps : List (Job α) := []
  /-- The numbers of the pumps that were not joined. -/
  numbers : List Nat := []
  /-- What the pumps have done, in order. -/
  deeds : List (Nat × Deed) := []

namespace Chronicle

/-- The chronicle after a pump that was not joined goes on. -/
def goOn (kind : SinkKind σ) (c : Chronicle σ α) (k : Nat) (answers : Answers) : Chronicle σ α :=
  let station := c.station.goOn kind k answers
  match c.numbers[k]?, c.station.jobs[k]?, station.jobs[k]? with
  | some n, some job, some after =>
      { c with
        station
        pumps := c.pumps.set n after
        deeds := c.deeds ++
          (job.work.deed? kind answers job.stream c.station.shared).toList.map (n, ·) }
  | _, _, _ => { c with station }

/-- The chronicle after an act. -/
def act (kind : SinkKind σ) (c : Chronicle σ α) (a : Station.Act α) : Chronicle σ α :=
  let station := c.station.act kind a
  match a with
  | .create | .bind .. => { c with station }
  | .start _ =>
      let started := station.jobs.drop c.station.jobs.length
      { c with
        station
        pumps := c.pumps ++ started
        numbers := c.numbers ++ List.range' c.pumps.length started.length }
  | .goOn k answers => c.goOn kind k answers
  | .stop i =>
      { c with
        station
        numbers := if (c.station.stop? i).isNone then c.numbers
          else c.numbers.filter fun n => c.pumps[n]?.any (·.session ≠ i) }

/-- The chronicle after one act and then another. -/
def play (kind : SinkKind σ) (c : Chronicle σ α) (acts : List (Station.Act α)) : Chronicle σ α :=
  acts.foldl (act kind) c

/-- What the reads of a pump were answered, in order. -/
def replies (c : Chronicle σ α) (n : Nat) : List ReadReply :=
  (entriesOf n c.deeds).filterMap Deed.reply?

/-- The bytes that the stream of a pump has taken, in order. -/
def delivered (c : Chronicle σ α) (n : Nat) : Bytes :=
  (entriesOf n c.deeds).flatMap Deed.delivered

/-- Whether a pump writes to the sink of an output stream. -/
def Drains (c : Chronicle σ α) (shared : Shared σ) (stream : StandardStream) (n : Nat) : Prop :=
  ∃ job : Job α, c.pumps[n]? = some job ∧ job.stream ≠ .input ∧
    shared.leadsTo job.stream stream = true

/-- Whether a pump takes from the source. -/
def Feeds (c : Chronicle σ α) (n : Nat) : Prop :=
  ∃ job : Job α, c.pumps[n]? = some job ∧ job.stream = .input

instance (c : Chronicle σ α) (shared : Shared σ) (stream : StandardStream) (n : Nat) :
    Decidable (c.Drains shared stream n) :=
  decidable_of_iff (c.pumps[n]?.any fun job =>
    job.stream ≠ .input ∧ shared.leadsTo job.stream stream = true) (by
      simp [Drains, Option.any_eq_true])

instance (c : Chronicle σ α) (n : Nat) : Decidable (c.Feeds n) :=
  decidable_of_iff (c.pumps[n]?.any fun job => job.stream = .input) (by
    simp [Feeds, Option.any_eq_true])

section

variable {kind : SinkKind σ} {c : Chronicle σ α}

/-- Keeping a chronicle changes nothing. -/
theorem station_act (a : Station.Act α) : (c.act kind a).station = c.station.act kind a := by
  cases a with
  | goOn k answers =>
      simp only [act, goOn]
      split <;> rfl
  | create | bind i stream what | start i | stop i => rfl

theorem station_play (acts : List (Station.Act α)) :
    (c.play kind acts).station = c.station.play kind acts := by
  induction acts generalizing c with
  | nil => rfl
  | cons a acts inductionHypothesis =>
      have later := inductionHypothesis (c := c.act kind a)
      rw [station_act] at later
      exact later

end

/-! ## What one act changes -/

/-- What one act makes of the pumps, of what they share, and of what is known about them. -/
inductive Next (kind : SinkKind σ) (c c' : Chronicle σ α) : Prop
  /-- Pumps begin, or none. -/
  | begun (started : List (Job α)) (fresh : ∀ job ∈ started, job.work = .begin job.stream)
      (pumps : c'.pumps = c.pumps ++ started) (shared : c'.station.shared = c.station.shared)
      (deeds : c'.deeds = c.deeds)
  /-- The session of a pump that has ended takes note of that. -/
  | noted (n : Nat) (job : Job α) (found : c.pumps[n]? = some job) (fault : Option Fault)
      (ended : job.work.ending? = some fault)
      (pumps : c'.pumps = c.pumps.set n { job with work := job.work.done })
      (shared : c'.station.shared = c.station.shared) (deeds : c'.deeds = c.deeds)
  /-- A pump goes on. -/
  | moved (n : Nat) (job : Job α) (found : c.pumps[n]? = some job)
      (going : job.work.ending? = none) (answers : Answers)
      (pumps : c'.pumps = c.pumps.set n
        { job with work := (job.work.step kind answers job.stream c.station.shared).1 })
      (shared : c'.station.shared = (job.work.step kind answers job.stream c.station.shared).2)
      (deeds : c'.deeds = c.deeds ++
        (job.work.deed? kind answers job.stream c.station.shared).toList.map (n, ·))

/-- No pump begins or goes on. -/
theorem Next.still {kind : SinkKind σ} {c c' : Chronicle σ α} (pumps : c'.pumps = c.pumps)
    (shared : c'.station.shared = c.station.shared) (deeds : c'.deeds = c.deeds) :
    Next kind c c' := by
  refine .begun [] ?_ ?_ shared deeds
  · intro job mem
    exact absurd mem List.not_mem_nil
  · rw [pumps, List.append_nil]

/-- The numbers are those of the pumps that were not joined. -/
structure Matches (c : Chronicle σ α) : Prop where
  /-- They number the pumps of the station. -/
  present : c.numbers.map (c.pumps[·]?) = c.station.jobs.map some
  /-- Each pump has its own. -/
  distinct : c.numbers.Nodup
  /-- Pumps without a number have ended. -/
  joined : ∀ n job, c.pumps[n]? = some job → n ∉ c.numbers → job.work.isDone = true

namespace Matches

section

variable {kind : SinkKind σ} {c : Chronicle σ α}

theorem getElem?_map (agrees : c.Matches) (k : Nat) :
    c.numbers[k]?.map (c.pumps[·]?) = c.station.jobs[k]?.map some := by
  have same := congrArg (·[k]?) agrees.present
  simpa only [List.getElem?_map] using same

/-- A pump of the station has a number. -/
theorem exists_number (agrees : c.Matches) {k : Nat} {job : Job α}
    (found : c.station.jobs[k]? = some job) :
    ∃ n, c.numbers[k]? = some n ∧ c.pumps[n]? = some job := by
  have same := agrees.getElem?_map k
  rw [found] at same
  exact Option.map_eq_some_iff.mp same

theorem lt_of_mem (agrees : c.Matches) {n : Nat} (mem : n ∈ c.numbers) :
    n < c.pumps.length := by
  have present : c.pumps[n]? ∈ c.numbers.map (c.pumps[·]?) := List.mem_map_of_mem mem
  rw [agrees.present] at present
  obtain ⟨job, -, same⟩ := List.mem_map.mp present
  exact (List.getElem?_eq_some_iff.mp same.symm).1

theorem mem_jobs (agrees : c.Matches) {n : Nat} {job : Job α} (mem : n ∈ c.numbers)
    (found : c.pumps[n]? = some job) : job ∈ c.station.jobs := by
  have present : c.pumps[n]? ∈ c.numbers.map (c.pumps[·]?) := List.mem_map_of_mem mem
  rwa [found, agrees.present, List.mem_map_of_injective (Option.some_injective _)] at present

/-- Nothing is done with the pumps. -/
theorem keep (agrees : c.Matches) {c' : Chronicle σ α}
    (pumps : c'.pumps = c.pumps) (numbers : c'.numbers = c.numbers)
    (jobs : c'.station.jobs = c.station.jobs) : c'.Matches where
  present := by
    rw [numbers, pumps, jobs]
    exact agrees.present
  distinct := numbers ▸ agrees.distinct
  joined := by
    rw [numbers, pumps]
    exact agrees.joined

/-- Pumps that are started are given the next numbers. -/
theorem start (agrees : c.Matches) {c' : Chronicle σ α} {started : List (Job α)}
    (pumps : c'.pumps = c.pumps ++ started)
    (numbers : c'.numbers = c.numbers ++ List.range' c.pumps.length started.length)
    (jobs : c'.station.jobs = c.station.jobs ++ started) : c'.Matches where
  present := by
    have old : c.numbers.map ((c.pumps ++ started)[·]?) = c.numbers.map (c.pumps[·]?) := by
      refine List.map_congr_left fun n mem => ?_
      exact List.getElem?_append_left (agrees.lt_of_mem mem)
    have new : (List.range' c.pumps.length started.length).map ((c.pumps ++ started)[·]?) =
        started.map some := by
      refine List.ext_getElem? fun k => ?_
      rw [List.getElem?_map, List.getElem?_map]
      by_cases inside : k < started.length
      · simp [inside]
      · simp [inside]
    rw [numbers, pumps, jobs, List.map_append, List.map_append, old, new, agrees.present]
  distinct := by
    rw [numbers, List.nodup_append]
    refine ⟨agrees.distinct, List.nodup_range', ?_⟩
    intro n old m new
    have less := agrees.lt_of_mem old
    have next := List.mem_range'_1.mp new
    omega
  joined := by
    intro n job found numberless
    rw [pumps] at found
    rw [numbers, List.mem_append, not_or, List.mem_range'_1] at numberless
    have inside := (List.getElem?_eq_some_iff.mp found).1
    rw [List.length_append] at inside
    rw [List.getElem?_append_left (by omega)] at found
    exact agrees.joined n job found numberless.1

/-- A pump that goes on keeps its number. -/
theorem set (agrees : c.Matches) {c' : Chronicle σ α} {k n : Nat} {job after : Job α}
    (found : c.station.jobs[k]? = some job) (number : c.numbers[k]? = some n)
    (pumps : c'.pumps = c.pumps.set n after)
    (numbers : c'.numbers = c.numbers) (jobs : c'.station.jobs = c.station.jobs.set k after) :
    c'.Matches where
  present := by
    rw [numbers, pumps, jobs]
    refine List.ext_getElem? fun i => ?_
    have inside := agrees.lt_of_mem (List.mem_of_getElem? number)
    have bound := (List.getElem?_eq_some_iff.mp number).1
    have same := agrees.getElem?_map i
    rw [List.getElem?_map, List.getElem?_map, List.getElem?_set]
    by_cases here : k = i
    · subst here
      have less := (List.getElem?_eq_some_iff.mp found).1
      rw [number, Option.map_some, if_pos rfl, if_pos less, List.getElem?_set_self inside]
      rfl
    · rw [if_neg here, ← same]
      cases other : c.numbers[i]? with
      | none => rfl
      | some m =>
        have different : n ≠ m := by
          rintro rfl
          exact here ((List.getElem?_inj bound agrees.distinct).mp (number.trans other.symm))
        rw [Option.map_some, Option.map_some, List.getElem?_set_ne different]
  distinct := numbers ▸ agrees.distinct
  joined := by
    intro m job found numberless
    rw [numbers] at numberless
    have different : n ≠ m := by
      rintro rfl
      exact numberless (List.mem_of_getElem? number)
    rw [pumps, List.getElem?_set_ne different] at found
    exact agrees.joined m job found numberless

/-- Pumps that are joined lose their numbers. -/
theorem join (agrees : c.Matches) {c' : Chronicle σ α} {i : Nat}
    (done : ∀ job ∈ c.station.jobs, job.session = i → job.work.isDone = true)
    (pumps : c'.pumps = c.pumps)
    (numbers : c'.numbers = c.numbers.filter fun n => c.pumps[n]?.any (·.session ≠ i))
    (jobs : c'.station.jobs = c.station.jobs.filter (·.session ≠ i)) : c'.Matches where
  present := by
    have kept : c.numbers.filter (fun n => c.pumps[n]?.any (·.session ≠ i)) =
        c.numbers.filter ((Option.any (·.session ≠ i)) ∘ (c.pumps[·]?)) := rfl
    rw [numbers, pumps, jobs, kept, ← List.filter_map, agrees.present, List.filter_map]
    rfl
  distinct := numbers ▸ agrees.distinct.filter _
  joined := by
    intro n job found numberless
    rw [pumps] at found
    by_cases present : n ∈ c.numbers
    · refine done job (agrees.mem_jobs present found) ?_
      rw [numbers, List.mem_filter, found] at numberless
      simpa [present] using numberless
    · exact agrees.joined n job found present

theorem act_start (agrees : c.Matches) (i : Nat) :
    Next kind c (c.act kind (.start i)) ∧ (c.act kind (.start i)).Matches := by
  obtain ⟨started, fresh, jobs, shared⟩ : ∃ started : List (Job α),
      (∀ job ∈ started, job.work = .begin job.stream) ∧
        (c.station.act kind (.start i)).jobs = c.station.jobs ++ started ∧
        (c.station.act kind (.start i)).shared = c.station.shared := by
    simp only [Station.act]
    cases c.station.sessions[i]? with
    | none => exact ⟨[], by simp, (List.append_nil _).symm, rfl⟩
    | some s =>
        refine ⟨Station.startedJobs i s, ?_, rfl, rfl⟩
        intro job mem
        obtain ⟨_, _, rfl⟩ := List.mem_map.mp mem
        rfl
  have new : (c.station.act kind (.start i)).jobs.drop c.station.jobs.length = started := by
    rw [jobs, List.drop_left]
  have pumps : (c.act kind (.start i)).pumps = c.pumps ++ started := congrArg (c.pumps ++ ·) new
  refine ⟨.begun started fresh pumps shared rfl, agrees.start pumps ?_ jobs⟩
  rw [← new]
  rfl

theorem act_goOn (agrees : c.Matches) (k : Nat) (answers : Answers) :
    Next kind c (c.act kind (.goOn k answers)) ∧ (c.act kind (.goOn k answers)).Matches := by
  simp only [act, goOn]
  cases found : c.station.jobs[k]? with
  | none =>
      have same : c.station.goOn kind k answers = c.station := by
        rw [Station.goOn, found]
      rw [same]
      cases c.numbers[k]? <;> exact ⟨.still rfl rfl rfl, agrees.keep rfl rfl rfl⟩
  | some job =>
      obtain ⟨n, number, known⟩ := agrees.exists_number found
      have less := (List.getElem?_eq_some_iff.mp found).1
      cases ending : job.work.ending? with
      | some fault =>
          obtain ⟨jobs, shared⟩ := Station.goOn_of_ended kind answers found ending
          have after : (c.station.goOn kind k answers).jobs[k]? =
              some { job with work := job.work.done } := by
            rw [jobs, List.getElem?_set_self less]
          rw [number, after]
          dsimp only
          rw [Work.deed?_of_ended ending]
          exact ⟨.noted n job known fault ending rfl shared (List.append_nil _),
            agrees.set found number rfl rfl jobs⟩
      | none =>
          obtain ⟨jobs, shared⟩ := Station.goOn_of_going kind answers found ending
          have after : (c.station.goOn kind k answers).jobs[k]? = some { job with
              work := (job.work.step kind answers job.stream c.station.shared).1 } := by
            rw [jobs, List.getElem?_set_self less]
          rw [number, after]
          exact ⟨.moved n job known ending answers rfl shared rfl,
            agrees.set found number rfl rfl jobs⟩

theorem act_stop (agrees : c.Matches) (i : Nat) :
    Next kind c (c.act kind (.stop i)) ∧ (c.act kind (.stop i)).Matches := by
  cases stopped : c.station.stop? i with
  | none =>
      have same : c.station.act kind (.stop i) = c.station := by
        simp only [Station.act, stopped]
        rfl
      have numbers : (c.act kind (.stop i)).numbers = c.numbers := by
        simp [act, stopped]
      exact ⟨.still rfl (congrArg Station.shared same) rfl,
        agrees.keep rfl numbers (congrArg Station.jobs same)⟩
  | some result =>
      obtain ⟨s, -, done, -, left⟩ := Station.stop?_eq_some_iff.mp stopped
      have same : c.station.act kind (.stop i) = c.station.join i := by
        simp only [Station.act, stopped]
        exact left
      have numbers : (c.act kind (.stop i)).numbers =
          c.numbers.filter fun n => c.pumps[n]?.any (·.session ≠ i) := by
        simp [act, stopped]
      have shared : (c.act kind (.stop i)).station.shared = c.station.shared :=
        (congrArg Station.shared same).trans rfl
      exact ⟨.still rfl shared rfl, agrees.join done rfl numbers (congrArg Station.jobs same)⟩

/-- Whatever is done, a chronicle takes one step, and its numbers stay in order. -/
theorem act (agrees : c.Matches) (a : Station.Act α) :
    Next kind c (c.act kind a) ∧ (c.act kind a).Matches := by
  cases a with
  | create | bind i stream what => exact ⟨.still rfl rfl rfl, agrees.keep rfl rfl rfl⟩
  | start i => exact agrees.act_start i
  | goOn k answers => exact agrees.act_goOn k answers
  | stop i => exact agrees.act_stop i

end

end Matches

/-! ## Whole runs -/

section

variable {kind : SinkKind σ} {c c' : Chronicle σ α}

theorem Next.deeds_subset (next : Next kind c c') : c.deeds ⊆ c'.deeds := by
  cases next with
  | begun started fresh pumps same deeds => exact deeds ▸ List.Subset.refl _
  | noted n job found fault ended pumps same deeds => exact deeds ▸ List.Subset.refl _
  | moved n job found going answers pumps same deeds =>
      exact deeds ▸ List.subset_append_left _ _

theorem play_append_singleton (acts : List (Station.Act α)) (a : Station.Act α) :
    c.play kind (acts ++ [a]) = (c.play kind acts).act kind a := by
  simp [play]

theorem matches_play (kind : SinkKind σ) (shared : Shared σ) (acts : List (Station.Act α)) :
    (play kind { station := { shared } } acts).Matches := by
  induction acts using List.reverseRecOn with
  | nil => exact ⟨rfl, List.nodup_nil, nofun⟩
  | append_singleton acts a agrees =>
      rw [play_append_singleton]
      exact (agrees.act a).2

/-- Once the pumps that were not joined have ended, all have. -/
theorem Matches.isDone (agrees : c.Matches)
    (finished : ∀ job ∈ c.station.jobs, job.work.isDone = true) {n : Nat} {job : Job α}
    (found : c.pumps[n]? = some job) : job.work.isDone = true := by
  by_cases present : n ∈ c.numbers
  · exact finished job (agrees.mem_jobs present found)
  · exact agrees.joined n job found present

end

end Chronicle

end Overseer.Pump
