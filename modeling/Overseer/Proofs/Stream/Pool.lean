import Mathlib.Data.List.Nodup
import Mathlib.Data.List.Perm.Basic
import Overseer.Stream.Owned

/-!
# Streams that come and go

Streams are made from descriptors and from other streams, are assigned to, closed and dropped,
one after the other.  None of that makes a descriptor or loses one: what was taken in is what
was closed together with what the streams hold, each as often as it was taken in.
-/

namespace Overseer

namespace Ownership

/-- What the streams hold. -/
def held (o : Ownership) : List Descriptor :=
  o.streams.filterMap OwnedStream.descriptor?

/-- What was closed, and what the streams hold. -/
def accounts (o : Ownership) : List Descriptor :=
  o.closeCalls ++ o.held

section

variable {o : Ownership} {i k : Nat} {s : OwnedStream} {d : Descriptor}

theorem filterMap_cons_toList (s : OwnedStream) (streams : List OwnedStream) :
    (s :: streams).filterMap OwnedStream.descriptor? =
      s.descriptor?.toList ++ streams.filterMap OwnedStream.descriptor? := by
  rcases s with ⟨_ | _⟩ <;> rfl

theorem stream_eq (inside : i < o.streams.length) : o.stream i = o.streams[i] := by
  rw [stream, List.getD_eq_getElem?_getD, List.getElem?_eq_getElem inside, Option.getD_some]

theorem stream_setStream_of_ne (o : Ownership) (s : OwnedStream) (other : k ≠ i) :
    (o.setStream i s).stream k = o.stream k := by
  simp [stream, setStream, List.getElem?_set_ne (Ne.symm other)]

/-- Replacing a stream exchanges what it held for what the new one holds. -/
theorem held_setStream (inside : i < o.streams.length) (s : OwnedStream) :
    ((o.stream i).descriptor?.toList ++ (o.setStream i s).held).Perm
      (s.descriptor?.toList ++ o.held) := by
  have before : ((o.streams[i] :: o.streams.eraseIdx i).filterMap OwnedStream.descriptor?).Perm
      o.held := (List.getElem_cons_eraseIdx_perm inside).filterMap _
  have after : (o.setStream i s).held.Perm
      ((s :: o.streams.eraseIdx i).filterMap OwnedStream.descriptor?) :=
    (List.set_perm_cons_eraseIdx inside s).filterMap _
  rw [filterMap_cons_toList] at before after
  rw [stream_eq inside]
  calc
    (o.streams[i].descriptor?.toList ++ (o.setStream i s).held).Perm
        (o.streams[i].descriptor?.toList ++ (s.descriptor?.toList ++
          (o.streams.eraseIdx i).filterMap OwnedStream.descriptor?)) := after.append_left _
    List.Perm _ (s.descriptor?.toList ++ (o.streams[i].descriptor?.toList ++
          (o.streams.eraseIdx i).filterMap OwnedStream.descriptor?)) := by
      rw [← List.append_assoc, ← List.append_assoc]
      exact List.perm_append_comm.append_right _
    List.Perm _ (s.descriptor?.toList ++ o.held) := before.append_left _

/-- Streams that hold no descriptor twice are told apart by what they hold. -/
theorem eq_of_nodup_held (distinct : o.held.Nodup) (first : i < o.streams.length)
    (second : k < o.streams.length) (holds : (o.stream i).descriptor? = some d)
    (holds' : (o.stream k).descriptor? = some d) : i = k := by
  have apart := List.pairwise_iff_getElem.mp (List.pairwise_filterMap.mp distinct)
  rw [stream_eq first] at holds
  rw [stream_eq second] at holds'
  rcases Nat.lt_trichotomy i k with less | same | more
  · exact absurd rfl (apart i k first second less d holds d holds')
  · exact same
  · exact absurd rfl (apart k i second first more d holds' d holds)

/-! ## What the operations do to the accounts -/

theorem accounts_adopt (o : Ownership) (d : Descriptor) :
    (o.adopt d).accounts = o.accounts ++ (OwnedStream.ofDescriptor d).descriptor?.toList := by
  simp only [accounts, held, adopt, List.filterMap_append, List.append_assoc]
  rw [filterMap_cons_toList, List.filterMap_nil, List.append_nil]

theorem accounts_takeOver (inside : i < o.streams.length) :
    (o.takeOver i).accounts.Perm o.accounts := by
  have exchange := held_setStream inside {}
  have held_eq : (o.takeOver i).held = (o.setStream i {}).held ++
      (o.stream i).descriptor?.toList := by
    simp only [held, takeOver, setStream, List.filterMap_append]
    rw [filterMap_cons_toList, List.filterMap_nil, List.append_nil]
  rw [accounts, held_eq]
  exact (List.perm_append_comm.trans exchange).append_left _

/-- What a stream held is closed when the stream is emptied. -/
theorem accounts_drop (inside : i < o.streams.length) : (o.drop i).accounts.Perm o.accounts := by
  have exchange := held_setStream inside {}
  rw [accounts, drop, noteClose, setStream, List.append_assoc]
  exact exchange.append_left _

theorem accounts_assign (target : i < o.streams.length) (source : k < o.streams.length) :
    (o.assign i k).accounts.Perm o.accounts := by
  unfold assign
  split
  · exact .refl _
  · next other =>
      have emptied := held_setStream source {}
      have target' : i < (o.setStream k {}).streams.length := by simpa [setStream] using target
      have filled := held_setStream target' (o.stream k)
      rw [stream_setStream_of_ne o {} other] at filled
      rw [accounts, noteClose, setStream, setStream, List.append_assoc]
      exact (filled.trans emptied).append_left _

end

end Ownership

/-- Streams that are made and dropped one by one. -/
structure StreamPool where
  /-- The streams at the places where they were made, and the calls that close descriptors. -/
  ownership : Ownership := { streams := [] }
  /-- The places of the streams that were dropped. -/
  dropped : List Nat := []

namespace StreamPool

/-- What is done with streams. -/
inductive Act
  /-- A stream is made for a descriptor, or for the number that stands for none. -/
  | adopt (d : Descriptor)
  /-- A stream is made that takes over what another one holds. -/
  | takeOver (source : Nat)
  /-- A stream is let take over what another one holds, or what it holds itself. -/
  | assign (target source : Nat)
  /-- A stream is closed, which the system answers in some way. -/
  | close (i : Nat) (reply : Except Errno Unit)
  /-- A stream is dropped. -/
  | drop (i : Nat)

namespace Act

/-- The descriptor that a stream is made for. -/
def taking? : Act → Option Descriptor
  | adopt d => if d = OwnedStream.noDescriptor then none else some d
  | _ => none

/-- The places of the streams that the act is about. -/
def places : Act → List Nat
  | adopt _ => []
  | takeOver source => [source]
  | assign target source => [target, source]
  | close i _ | drop i => [i]

/-- The place of the stream that is dropped. -/
def dropping? : Act → Option Nat
  | drop i => some i
  | _ => none

/-- What the act does to the streams. -/
def apply (o : Ownership) : Act → Ownership
  | adopt d => o.adopt d
  | takeOver source => o.takeOver source
  | assign target source => o.assign target source
  | close i reply => (o.close i reply).2
  | drop i => o.drop i

end Act

/-- The descriptors that streams are made for. -/
def takings (acts : List Act) : List Descriptor :=
  acts.filterMap Act.taking?

/-- Whether there is a stream at a place: it was made there and not dropped. -/
def Exists (pool : StreamPool) (i : Nat) : Prop :=
  i < pool.ownership.streams.length ∧ i ∉ pool.dropped

instance (pool : StreamPool) (i : Nat) : Decidable (pool.Exists i) :=
  inferInstanceAs (Decidable (_ ∧ _))

/-- Whether the stream at a place holds a descriptor. -/
def Holds (pool : StreamPool) (i : Nat) (d : Descriptor) : Prop :=
  pool.Exists i ∧ (pool.ownership.stream i).descriptor? = some d

/-- The pool after an act; nothing can be done with streams that do not exist. -/
def act (pool : StreamPool) (a : Act) : StreamPool :=
  if ∀ i ∈ a.places, pool.Exists i then
    { ownership := a.apply pool.ownership, dropped := a.dropping?.toList ++ pool.dropped }
  else pool

/-- The pool after one act and then another. -/
def play (pool : StreamPool) (acts : List Act) : StreamPool :=
  acts.foldl act pool

/-- What holds of a pool whose streams were made for some descriptors. -/
structure Kept (taken : List Descriptor) (pool : StreamPool) : Prop where
  /-- What was taken in was closed or is held. -/
  balanced : pool.ownership.accounts.Perm taken
  /-- Where a stream was dropped, there is one that holds nothing. -/
  emptied : ∀ i ∈ pool.dropped, pool.ownership.streams[i]? = some {}

section

variable {taken : List Descriptor} {pool : StreamPool} {a : Act} {i : Nat} {d : Descriptor}

/-! ## What an act does -/

theorem descriptor?_ofDescriptor (d : Descriptor) :
    (OwnedStream.ofDescriptor d).descriptor? = (Act.adopt d).taking? := by
  unfold OwnedStream.ofDescriptor
  split
  · next none => simp [Act.taking?, none]
  · next some => simp [Act.taking?, some]

/-- The accounts change by what is taken in, and by nothing else. -/
theorem accounts_apply (present : ∀ i ∈ a.places, pool.Exists i) :
    (a.apply pool.ownership).accounts.Perm (pool.ownership.accounts ++ a.taking?.toList) := by
  have inside : ∀ i ∈ a.places, i < pool.ownership.streams.length :=
    fun i found => (present i found).1
  cases a with
  | adopt d =>
      rw [Act.apply, Ownership.accounts_adopt, descriptor?_ofDescriptor]
  | takeOver source =>
      change List.Perm _ (_ ++ [])
      rw [List.append_nil]
      exact Ownership.accounts_takeOver (inside source List.mem_cons_self)
  | assign target source =>
      change List.Perm _ (_ ++ [])
      rw [List.append_nil]
      exact Ownership.accounts_assign (inside target List.mem_cons_self)
        (inside source (List.mem_cons_of_mem _ List.mem_cons_self))
  | close i reply | drop i =>
      change List.Perm _ (_ ++ [])
      rw [List.append_nil]
      exact Ownership.accounts_drop (inside i List.mem_cons_self)

/-- An act leaves all streams alone but those it is about. -/
theorem getElem?_apply (o : Ownership) (inside : i < o.streams.length) (other : i ∉ a.places) :
    (a.apply o).streams[i]? = o.streams[i]? := by
  cases a with
  | adopt d => exact List.getElem?_append_left inside
  | takeOver source =>
      have unlike : source ≠ i := Ne.symm (List.ne_of_not_mem_cons other)
      have inside' : i < (o.streams.set source {}).length := by simpa using inside
      exact (List.getElem?_append_left inside').trans (List.getElem?_set_ne unlike)
  | assign target source =>
      simp only [Act.places, List.mem_cons, List.not_mem_nil, or_false, not_or] at other
      simp only [Act.apply, Ownership.assign]
      split
      · rfl
      · exact (List.getElem?_set_ne (Ne.symm other.1)).trans
          (List.getElem?_set_ne (Ne.symm other.2))
  | close k reply | drop k =>
      exact List.getElem?_set_ne (Ne.symm (List.ne_of_not_mem_cons other))

theorem getElem?_apply_drop (inside : i < pool.ownership.streams.length) :
    ((Act.drop i).apply pool.ownership).streams[i]? = some {} :=
  List.getElem?_set_self inside

namespace Kept

/-- An act keeps what holds. -/
theorem act (kept : Kept taken pool) (a : Act) : Kept (taken ++ a.taking?.toList) (pool.act a) := by
  unfold StreamPool.act
  split
  · next present =>
      constructor
      · exact (accounts_apply present).trans (kept.balanced.append_right _)
      · intro i absent
        rcases List.mem_append.mp absent with now | before
        · cases a with
          | drop k =>
              obtain rfl : i = k := by simpa [Act.dropping?] using now
              exact getElem?_apply_drop (present i List.mem_cons_self).1
          | _ => simp [Act.dropping?] at now
        · have empty := kept.emptied i before
          obtain ⟨inside, _⟩ := List.getElem?_eq_some_iff.mp empty
          rw [getElem?_apply _ inside fun about => (present i about).2 before, empty]
  · next absent =>
      have nothing : a.taking? = none := by
        cases a with
        | adopt d => exact absurd (List.forall_mem_nil _) absent
        | _ => rfl
      simpa [nothing] using kept

theorem play (kept : Kept taken pool) (acts : List Act) :
    Kept (taken ++ takings acts) (pool.play acts) := by
  induction acts generalizing taken pool with
  | nil => simpa [takings, StreamPool.play] using kept
  | cons a acts inductionHypothesis =>
      have later := inductionHypothesis (kept.act a)
      rw [List.append_assoc] at later
      have takings_cons : takings (a :: acts) = a.taking?.toList ++ takings acts := by
        unfold takings
        rw [List.filterMap_cons]
        cases a.taking? <;> rfl
      rwa [takings_cons]

/-! ## What follows for a descriptor -/

theorem mem_held_iff (kept : Kept taken pool) :
    d ∈ pool.ownership.held ↔ ∃ i, pool.Holds i d := by
  constructor
  · intro held
    obtain ⟨s, inner, holds⟩ := List.mem_filterMap.mp held
    obtain ⟨i, inside, rfl⟩ := List.mem_iff_getElem.mp inner
    refine ⟨i, ⟨inside, ?_⟩, by rwa [Ownership.stream_eq inside]⟩
    intro absent
    have empty := kept.emptied i absent
    rw [List.getElem?_eq_getElem inside] at empty
    rw [Option.some.inj empty] at holds
    contradiction
  · rintro ⟨i, ⟨inside, _⟩, holds⟩
    rw [Ownership.stream_eq inside] at holds
    exact List.mem_filterMap.mpr ⟨_, List.getElem_mem inside, holds⟩

theorem nodup_accounts (kept : Kept taken pool) (distinct : taken.Nodup) :
    pool.ownership.accounts.Nodup :=
  kept.balanced.nodup_iff.mpr distinct

/-- What was closed is held by nobody. -/
theorem not_holds_of_closed (kept : Kept taken pool) (distinct : taken.Nodup)
    (closed : d ∈ pool.ownership.closeCalls) : ¬pool.Holds i d := by
  intro holds
  have held := kept.mem_held_iff.mpr ⟨i, holds⟩
  exact (List.nodup_append.mp (kept.nodup_accounts distinct)).2.2 d closed d held rfl

/-- What was not closed is held by one stream and no other. -/
theorem existsUnique_holds (kept : Kept taken pool) (distinct : taken.Nodup) (known : d ∈ taken)
    (unclosed : d ∉ pool.ownership.closeCalls) : ∃! i, pool.Holds i d := by
  have found : d ∈ pool.ownership.accounts := kept.balanced.mem_iff.mpr known
  have held : d ∈ pool.ownership.held := (List.mem_append.mp found).resolve_left unclosed
  obtain ⟨i, holds⟩ := kept.mem_held_iff.mp held
  refine ⟨i, holds, ?_⟩
  intro k holds'
  have nodup := (List.nodup_append.mp (kept.nodup_accounts distinct)).2.1
  exact Ownership.eq_of_nodup_held nodup holds'.1.1 holds.1.1 holds'.2 holds.2

/-- Once no stream is left, what was taken in was closed. -/
theorem closed_of_none (kept : Kept taken pool) (none : ∀ i, ¬pool.Exists i) :
    pool.ownership.closeCalls.Perm taken := by
  have nothing : pool.ownership.held = [] := by
    rw [List.eq_nil_iff_forall_not_mem]
    intro d held
    obtain ⟨i, present, _⟩ := kept.mem_held_iff.mp held
    exact none i present
  have balanced := kept.balanced
  rwa [Ownership.accounts, nothing, List.append_nil] at balanced

end Kept

theorem kept_fresh : Kept [] {} :=
  ⟨.refl _, nofun⟩

/-! ## Dropping what is left -/

theorem exists_drop_iff {k : Nat} :
    (pool.act (.drop i)).Exists k ↔ pool.Exists k ∧ k ≠ i := by
  unfold act
  split
  · next present =>
      have same : ((Act.drop i).apply pool.ownership).streams.length =
          pool.ownership.streams.length := List.length_set
      simp only [Exists, Act.dropping?, Option.toList_some, List.singleton_append, List.mem_cons,
        not_or, same]
      tauto
  · next absent =>
      constructor
      · intro present
        refine ⟨present, ?_⟩
        rintro rfl
        exact absent (by simpa [Act.places] using present)
      · exact And.left

/-- Whatever streams are left can be dropped, in any order. -/
theorem exists_play_drop_iff {k : Nat} {rest : List Nat} :
    (pool.play (rest.map .drop)).Exists k ↔ pool.Exists k ∧ k ∉ rest := by
  induction rest generalizing pool with
  | nil => simp [play]
  | cons i rest inductionHypothesis =>
      have later := @inductionHypothesis (pool.act (.drop i))
      rw [exists_drop_iff] at later
      rw [List.mem_cons, not_or, ← and_assoc]
      exact later

end

/-- Whatever is done with streams that are made for distinct descriptors, and whatever the system
answers when a descriptor is closed.

* A descriptor that was not closed is held by one stream and by no other.
* A descriptor that was closed is held by none; no other than those that streams were made for
  is closed or held.
* No descriptor is closed twice.
* Once all streams are dropped, each descriptor was closed once.
* Those that are left can be dropped in any order, and then none is left. -/
theorem each_closed_once (acts : List Act) (distinct : (takings acts).Nodup) :
    let pool := play {} acts
    (∀ d ∈ takings acts, d ∉ pool.ownership.closeCalls → ∃! i, pool.Holds i d) ∧
    (∀ d ∈ pool.ownership.closeCalls, d ∈ takings acts ∧ ∀ i, ¬pool.Holds i d) ∧
    (∀ i d, pool.Holds i d → d ∈ takings acts) ∧
    (∀ d, pool.ownership.closeCalls.count d ≤ 1) ∧
    ((∀ i, ¬pool.Exists i) → ∀ d ∈ takings acts, pool.ownership.closeCalls.count d = 1) ∧
    ∀ rest : List Nat, (∀ i, pool.Exists i → i ∈ rest) →
      ∀ i, ¬(pool.play (rest.map .drop)).Exists i := by
  intro pool
  have kept : Kept (takings acts) pool := kept_fresh.play acts
  have nodup := List.nodup_append.mp (kept.nodup_accounts distinct)
  refine ⟨fun d known unclosed => kept.existsUnique_holds distinct known unclosed, ?_, ?_, ?_, ?_,
    ?_⟩
  · intro d closed
    have known := kept.balanced.mem_iff.mp (List.mem_append_left _ closed)
    exact ⟨known, fun i => kept.not_holds_of_closed distinct closed⟩
  · intro i d holds
    have held := kept.mem_held_iff.mpr ⟨i, holds⟩
    exact kept.balanced.mem_iff.mp (List.mem_append_right _ held)
  · exact List.nodup_iff_count_le_one.mp nodup.1
  · intro none d known
    have closed := (kept.closed_of_none none).mem_iff.mpr known
    exact List.count_eq_one_of_mem nodup.1 closed
  · intro rest all i present
    obtain ⟨left, out⟩ := exists_play_drop_iff.mp present
    exact out (all i left)

/-- A stream is made for each of two descriptors, the first one is moved and then assigned over
the second one, which closes that; closing what is left fails, and everything is dropped. -/
def handedOn : List Act :=
  [.adopt 3, .adopt 4, .takeOver 0, .assign 1 2, .assign 1 1, .close 1 (.error .inputOutput),
    .close 1 (.ok ()), .drop 0, .drop 1, .drop 2]

/-- Both descriptors were closed once. -/
theorem each_closed_once_handedOn :
    (takings handedOn).Nodup ∧ (play {} handedOn).ownership.closeCalls.count 3 = 1 ∧
      (play {} handedOn).ownership.closeCalls.count 4 = 1 := by
  have distinct : (takings handedOn).Nodup := by decide
  obtain ⟨_, _, _, _, once, _⟩ := each_closed_once handedOn distinct
  have none : ∀ i, ¬(play {} handedOn).Exists i := by
    rintro i ⟨inside, present⟩
    have bound : i < 3 := inside
    have dropped : (play {} handedOn).dropped = [2, 1, 0] := rfl
    rw [dropped] at present
    simp only [List.mem_cons, List.not_mem_nil, or_false, not_or] at present
    omega
  exact ⟨distinct, once none 3 (by decide), once none 4 (by decide)⟩

end StreamPool

end Overseer
