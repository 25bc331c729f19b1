import Mathlib.Data.List.Nodup
import Mathlib.Data.List.Perm.Subperm
import Overseer.Machine.Host.Launch

/-!
# The standard descriptors of a child

A child lets its three standard descriptors stand for ends of its pipes, one after the other, and
then executes its program, which closes all it does not need.  That goes wrong where an end has the
number of a standard descriptor already: it is overwritten before its turn, or it is not touched
and closed with the rest.  Pipes get the least numbers that are free, so that for a launch only the
first one matters: a supervisor without a standard input launches children without one.
-/

namespace Overseer

namespace DescriptorTable

/-- No descriptor stands for two things. -/
def IsTidy (t : DescriptorTable) : Prop :=
  (t.openings.map Prod.fst).Nodup

/-- What a descriptor stands for once a program was executed. -/
def lasting? (t : DescriptorTable) (d : Descriptor) : Option Resource :=
  (t.execute.find? d).map Opening.resource

section

variable {t : DescriptorTable} {d k : Descriptor} {opening : Opening}

theorem find?_eq_some_iff (tidy : t.IsTidy) :
    t.find? d = some opening ↔ (d, opening) ∈ t.openings := by
  unfold find?
  constructor
  · intro found
    obtain ⟨entry, first, rfl⟩ := Option.map_eq_some_iff.mp found
    have same : entry.1 = d := by simpa using List.find?_some first
    rw [← same]
    exact List.mem_of_find?_eq_some first
  · intro listed
    have some : (t.openings.find? (fun entry => entry.1 = d)).isSome :=
      List.find?_isSome.mpr ⟨(d, opening), listed, by simp⟩
    obtain ⟨entry, first⟩ := Option.isSome_iff_exists.mp some
    have same : entry.1 = d := by simpa using List.find?_some first
    have once : entry = (d, opening) :=
      List.inj_on_of_nodup_map tidy (List.mem_of_find?_eq_some first) listed same
    rw [first, once]
    rfl

theorem find?_set_of_ne (t : DescriptorTable) (opening : Opening) (other : k ≠ d) :
    (t.set d opening).find? k = t.find? k := by
  have last : [(d, opening)].find? (fun entry => entry.1 = k) = none := by simp [Ne.symm other]
  simp only [find?, set, List.find?_append, last, Option.or_none, List.find?_filter]
  congr 2
  funext entry
  by_cases same : entry.1 = k
  · simp [same, other]
  · simp [same]

theorem find?_set (t : DescriptorTable) (d k : Descriptor) (opening : Opening) :
    (t.set d opening).find? k = if k = d then some opening else t.find? k := by
  split
  · next same => rw [same, find?_set_self]
  · next other => exact find?_set_of_ne t opening other

theorem IsTidy.set (tidy : t.IsTidy) (d : Descriptor) (opening : Opening) :
    (t.set d opening).IsTidy := by
  unfold IsTidy DescriptorTable.set
  rw [List.map_append]
  apply List.nodup_append.mpr
  refine ⟨tidy.sublist (List.filter_sublist.map _), List.nodup_singleton d, ?_⟩
  intro other kept last only
  obtain ⟨entry, listed, rfl⟩ := List.mem_map.mp kept
  rw [List.mem_singleton.mp only]
  simpa using (List.mem_filter.mp listed).2

/-- Executing a program closes what is to be closed then, and nothing else. -/
theorem find?_execute (tidy : t.IsTidy) (d : Descriptor) :
    t.execute.find? d = (t.find? d).filter fun opening => !opening.closeOnExec := by
  have tidy' : t.execute.IsTidy := tidy.sublist (List.filter_sublist.map _)
  ext opening
  rw [find?_eq_some_iff tidy', Option.filter_eq_some_iff, find?_eq_some_iff tidy]
  exact List.mem_filter

theorem isOpen_iff (tidy : t.IsTidy) : t.isOpen d = true ↔ d ∈ t.openings.map Prod.fst := by
  unfold isOpen
  rw [Option.isSome_iff_exists, List.mem_map]
  constructor
  · rintro ⟨opening, found⟩
    exact ⟨_, (find?_eq_some_iff tidy).mp found, rfl⟩
  · rintro ⟨⟨_, opening⟩, listed, rfl⟩
    exact ⟨opening, (find?_eq_some_iff tidy).mpr listed⟩

end

/-! ## Duplicating -/

section

variable {t : DescriptorTable} {source target : Descriptor} {opening : Opening}

/-- What every descriptor stands for once one of them was duplicated. -/
theorem exists_duplicate (tidy : t.IsTidy) (found : t.find? source = some opening)
    (target : Descriptor) :
    ∃ t', t.duplicate source target = .ok t' ∧ t'.IsTidy ∧
      ∀ d, t'.find? d = if d = target ∧ source ≠ target then
        some { opening with closeOnExec := false } else t.find? d := by
  unfold duplicate
  rw [found]
  by_cases same : source = target
  · refine ⟨t, if_pos same, tidy, ?_⟩
    intro d
    rw [if_neg fun both => both.2 same]
  · refine ⟨_, if_neg same, tidy.set .., ?_⟩
    intro d
    rw [find?_set]
    simp [same]

end

/-- Descriptors stand for ends of pipes that are closed when a program is executed. -/
structure StandFor (t : DescriptorTable) (descriptors : List Descriptor)
    (ends : List Resource) : Prop where
  /-- No two descriptors are the same. -/
  distinct : descriptors.Nodup
  /-- No two ends are the same. -/
  unlike : ends.Nodup
  /-- Each descriptor stands for its end. -/
  found : descriptors.map t.find? = ends.map fun resource => some { resource, closeOnExec := true }

section

variable {t : DescriptorTable} {input output error report : Descriptor} {a b c e : Resource}

/-- What the standard descriptors of a child stand for once its program was executed, and the
descriptor of its report until then.  A source that has the number of an earlier target stands for
what was put there, and a source that has the number of its own target is closed. -/
theorem exists_wireStandard (tidy : t.IsTidy)
    (stand : t.StandFor [input, output, error, report] [a, b, c, e]) :
    let second := if output = 0 then a else b
    let third := if error = 0 then a else if error = 1 then second else c
    ∃ wired, t.wireStandard input output error = .ok wired ∧
      wired.lasting? 0 = (if input = 0 then none else some a) ∧
      wired.lasting? 1 = (if output = 1 then none else some second) ∧
      wired.lasting? 2 = (if error = 2 then none else some third) ∧
      (wired.find? report).map Opening.resource = some
        (if report = 0 then a else if report = 1 then second else if report = 2 then third
          else e) := by
  intro second third
  obtain ⟨distinct, _, found⟩ := stand
  simp only [List.map_cons, List.map_nil, List.cons.injEq, and_true] at found
  obtain ⟨atInput, atOutput, atError, atReport⟩ := found
  simp only [List.nodup_cons, List.mem_cons, List.not_mem_nil, or_false, not_or, not_false_eq_true,
    List.nodup_nil, and_true] at distinct
  obtain ⟨⟨inputOutput, inputError, inputReport⟩, ⟨outputError, outputReport⟩, errorReport⟩ :=
    distinct
  obtain ⟨t₁, step₁, tidy₁, find₁⟩ := exists_duplicate tidy atInput 0
  have atOutput₁ : t₁.find? output =
      some { resource := second, closeOnExec := decide (output ≠ 0) } := by
    rw [find₁]
    by_cases zero : output = 0
    · have : input ≠ 0 := by rwa [← zero]
      simp [second, zero, this]
    · simp [second, zero, atOutput]
  obtain ⟨t₂, step₂, tidy₂, find₂⟩ := exists_duplicate tidy₁ atOutput₁ 1
  have atError₂ : t₂.find? error =
      some { resource := third, closeOnExec := decide (error ≠ 0 ∧ error ≠ 1) } := by
    rw [find₂, find₁]
    by_cases one : error = 1
    · have : output ≠ 1 := by rwa [← one]
      simp [third, one, this]
    · by_cases zero : error = 0
      · have : input ≠ 0 := by rwa [← zero]
        simp [third, zero, this]
      · simp [third, one, zero, atError]
  obtain ⟨t₃, step₃, tidy₃, find₃⟩ := exists_duplicate tidy₂ atError₂ 2
  refine ⟨t₃, ?_, ?_, ?_, ?_, ?_⟩
  · have chain : t.wireStandard input output error =
        (t.duplicate input 0).bind fun t => (t.duplicate output 1).bind (·.duplicate error 2) := rfl
    rw [chain, step₁, Except.bind, step₂, Except.bind, step₃]
  · rw [lasting?, find?_execute tidy₃, find₃, find₂, find₁]
    by_cases zero : input = 0
    · subst zero
      simp [atInput]
    · simp [zero]
  · rw [lasting?, find?_execute tidy₃, find₃, find₂, find₁]
    by_cases one : output = 1
    · subst one
      simp [atOutput]
    · simp [one]
  · rw [lasting?, find?_execute tidy₃, find₃, find₂, find₁]
    by_cases two : error = 2
    · subst two
      simp [atError]
    · simp [two]
  · rw [find₃, find₂, find₁]
    by_cases zero : report = 0
    · subst zero
      simp [inputReport]
    · by_cases one : report = 1
      · subst one
        simp [outputReport]
      · by_cases two : report = 2
        · subst two
          simp [errorReport]
        · simp [zero, one, two, atReport]

/-- The standard descriptors of a child stand for the ends that they are meant to stand for, and the
report for its own until a program is executed, if, and only if, none of these is overwritten
before its turn and none has the number already that it is to get. -/
theorem wireStandard_iff (tidy : t.IsTidy)
    (stand : t.StandFor [input, output, error, report] [a, b, c, e]) :
    ∃ wired, t.wireStandard input output error = .ok wired ∧
      (wired.lasting? 0 = some a ↔ input ≠ 0) ∧
      (wired.lasting? 1 = some b ↔ output ≠ 0 ∧ output ≠ 1) ∧
      (wired.lasting? 2 = some c ↔ error ≠ 0 ∧ error ≠ 1 ∧ error ≠ 2) ∧
      ((wired.find? report).map Opening.resource = some e ↔
        report ≠ 0 ∧ report ≠ 1 ∧ report ≠ 2) := by
  obtain ⟨wired, wiring, first, second, third, last⟩ := exists_wireStandard tidy stand
  have unlike := stand.unlike
  simp only [List.nodup_cons, List.mem_cons, List.not_mem_nil, or_false, not_or, not_false_eq_true,
    List.nodup_nil, and_true] at unlike
  obtain ⟨⟨ab, ac, ae⟩, ⟨bc, be⟩, ce⟩ := unlike
  refine ⟨wired, wiring, ?_, ?_, ?_, ?_⟩
  · rw [first]
    grind
  · rw [second]
    grind
  · rw [third]
    grind
  · rw [last]
    grind

end

/-! ## Free descriptors -/

/-- Every descriptor up to one is open. -/
def FullTo (t : DescriptorTable) (d : Descriptor) : Prop :=
  ∀ k, 0 ≤ k → k ≤ d → t.isOpen k = true

section

variable {t : DescriptorTable} {d : Descriptor} {opening : Opening}

/-- Among more numbers than there are openings there is one that is free. -/
theorem exists_not_isOpen (tidy : t.IsTidy) :
    ∃ n < t.openings.length + 1, t.isOpen (n : Int) = false := by
  by_contra all
  have allOpen : ∀ n < t.openings.length + 1, t.isOpen (n : Int) = true := by
    intro n below
    by_contra free
    exact all ⟨n, below, by simpa using free⟩
  have distinct : ((List.range (t.openings.length + 1)).map Nat.cast : List Int).Nodup :=
    List.nodup_range.map fun _ _ => Int.ofNat.inj
  have inside : ((List.range (t.openings.length + 1)).map Nat.cast : List Int) ⊆
      t.openings.map Prod.fst := by
    intro d found
    obtain ⟨n, below, rfl⟩ := List.mem_map.mp found
    exact (isOpen_iff tidy).mp (allOpen n (List.mem_range.mp below))
  have few := (distinct.subperm inside).length_le
  simp only [List.length_map, List.length_range] at few
  omega

/-- The least free descriptor is free, and there is none below it. -/
theorem leastFree_spec (tidy : t.IsTidy) :
    0 ≤ t.leastFree ∧ t.isOpen t.leastFree = false ∧
      ∀ d, 0 ≤ d → d < t.leastFree → t.isOpen d = true := by
  obtain ⟨n, below, free⟩ := exists_not_isOpen tidy
  have some : ((List.range (t.openings.length + 1)).find?
      fun n : Nat => !t.isOpen (n : Int)).isSome :=
    List.find?_isSome.mpr ⟨n, List.mem_range.mpr below, by rw [free]; rfl⟩
  obtain ⟨least, found⟩ := Option.isSome_iff_exists.mp some
  obtain ⟨closed, _, others⟩ := List.find?_range_eq_some.mp found
  have same : t.leastFree = (least : Int) := by
    have shape : ((fun d => !t.isOpen d) ∘ fun n => Int.ofNat (0 + n)) =
        fun n : Nat => !t.isOpen (n : Int) := by
      funext n
      simp
    unfold leastFree leastFreeFrom
    simp only [List.find?_map, shape, found]
    simp
  rw [same]
  refine ⟨Int.natCast_nonneg least, by simpa using closed, ?_⟩
  intro d nonneg less
  obtain ⟨m, rfl⟩ := Int.eq_ofNat_of_zero_le nonneg
  simpa using others m (Int.ofNat_lt.mp less)

theorem FullTo.lt_leastFree (tidy : t.IsTidy) (full : t.FullTo d) : d < t.leastFree := by
  obtain ⟨nonneg, free, _⟩ := leastFree_spec tidy
  by_contra less
  have used := full t.leastFree nonneg (Int.not_lt.mp less)
  rw [free] at used
  contradiction

theorem isOpen_set (t : DescriptorTable) (d k : Descriptor) (opening : Opening) :
    (t.set d opening).isOpen k = (decide (k = d) || t.isOpen k) := by
  unfold isOpen
  rw [find?_set]
  by_cases same : k = d
  · simp [same]
  · simp [same]

/-- Once the least free descriptor stands for something, all up to it are open. -/
theorem fullTo_set_leastFree (tidy : t.IsTidy) (opening : Opening) :
    (t.set t.leastFree opening).FullTo t.leastFree := by
  obtain ⟨_, _, below⟩ := leastFree_spec tidy
  intro k nonneg le
  rw [isOpen_set]
  rcases Int.le_iff_eq_or_lt.mp le with same | less
  · simp [same]
  · simp [below k nonneg less]

end

/-- A pipe was opened: its ends got free descriptors above all those up to which none was free. -/
structure Opens (t t' : DescriptorTable) (reading writing : Int) : Prop where
  tidy : t'.IsTidy
  pipes : t'.pipes = t.pipes + 1
  lowest : reading = 0 ↔ t.isOpen 0 = false
  nonneg : 0 ≤ reading
  above : ∀ d : Int, t.FullTo d → d < reading
  ascending : reading < writing
  full : t'.FullTo writing
  find : ∀ d, t'.find? d =
    if d = writing then some { resource := .writing t.pipes, closeOnExec := true }
    else if d = reading then some { resource := .reading t.pipes, closeOnExec := true }
    else t.find? d

namespace Opens

variable {t t' : DescriptorTable} {reading writing : Int}

theorem find_writing (opens : t.Opens t' reading writing) :
    t'.find? writing = some { resource := .writing t.pipes, closeOnExec := true } := by
  rw [opens.find, if_pos rfl]

theorem find_reading (opens : t.Opens t' reading writing) :
    t'.find? reading = some { resource := .reading t.pipes, closeOnExec := true } := by
  rw [opens.find, if_neg (Int.ne_of_lt opens.ascending), if_pos rfl]

theorem find_of_lt (opens : t.Opens t' reading writing) {d : Int} (below : d < reading) :
    t'.find? d = t.find? d := by
  have ascending := opens.ascending
  rw [opens.find, if_neg (Int.ne_of_lt (Int.lt_trans below ascending)),
    if_neg (Int.ne_of_lt below)]

end Opens

theorem exists_openPipe {t : DescriptorTable} (tidy : t.IsTidy) :
    ∃ (reading writing : Int) (t' : DescriptorTable), t.openPipe = (reading, writing, t') ∧
      t.Opens t' reading writing := by
  let first := t.set t.leastFree { resource := .reading t.pipes, closeOnExec := true }
  have tidy' : first.IsTidy := tidy.set _ _
  have full : first.FullTo t.leastFree := fullTo_set_leastFree tidy _
  obtain ⟨nonneg, free, below⟩ := leastFree_spec tidy
  refine ⟨_, _, _, rfl, ?_⟩
  constructor
  · exact tidy'.set _ _
  · rfl
  · constructor
    · intro zero
      rwa [zero] at free
    · intro closed
      by_contra other
      have used := below 0 (Int.le_refl 0) (Int.lt_iff_le_and_ne.mpr ⟨nonneg, Ne.symm other⟩)
      rw [closed] at used
      contradiction
  · exact nonneg
  · intro d fullTo
    exact fullTo.lt_leastFree tidy
  · exact full.lt_leastFree tidy'
  · exact fullTo_set_leastFree tidy' _
  · intro d
    exact (find?_set first first.leastFree d _).trans (by rw [find?_set])

section

variable {t t₁ t₂ t₃ t₄ : DescriptorTable} {r₁ w₁ r₂ w₂ r₃ w₃ r₄ w₄ : Int}

/-- A later pipe has its ends above those of an earlier one. -/
theorem Opens.ordered (opens₁ : t.Opens t₁ r₁ w₁) (opens₂ : t₁.Opens t₂ r₂ w₂) :
    0 ≤ r₁ ∧ r₁ < w₁ ∧ w₁ < r₂ ∧ r₂ < w₂ :=
  ⟨opens₁.nonneg, opens₁.ascending, opens₂.above _ opens₁.full, opens₂.ascending⟩

/-- The ends of four pipes that a child needs. -/
theorem standFor_of_opens (opens₁ : t.Opens t₁ r₁ w₁) (opens₂ : t₁.Opens t₂ r₂ w₂)
    (opens₃ : t₂.Opens t₃ r₃ w₃) (opens₄ : t₃.Opens t₄ r₄ w₄) :
    t₄.StandFor [r₁, w₂, w₃, w₄] [.reading t.pipes, .writing (t.pipes + 1),
      .writing (t.pipes + 2), .writing (t.pipes + 3)] := by
  have low := opens₁.ordered opens₂
  have middle := opens₂.ordered opens₃
  have high := opens₃.ordered opens₄
  constructor
  · have ascending : List.Pairwise (fun x y : Int => x < y) [r₁, w₂, w₃, w₄] := by
      simp only [List.pairwise_cons, List.mem_cons, List.not_mem_nil, or_false,
        forall_eq_or_imp, forall_eq, List.Pairwise.nil, and_true, false_implies, implies_true]
      omega
    exact ascending.imp Int.ne_of_lt
  · simp
  · have input : t₄.find? r₁ = some { resource := .reading t.pipes, closeOnExec := true } := by
      rw [opens₄.find_of_lt (by omega), opens₃.find_of_lt (by omega), opens₂.find_of_lt (by omega),
        opens₁.find_reading]
    have output : t₄.find? w₂ =
        some { resource := .writing (t.pipes + 1), closeOnExec := true } := by
      rw [opens₄.find_of_lt (by omega), opens₃.find_of_lt (by omega), opens₂.find_writing,
        opens₁.pipes]
    have error : t₄.find? w₃ = some { resource := .writing (t.pipes + 2), closeOnExec := true } := by
      rw [opens₄.find_of_lt (by omega), opens₃.find_writing, opens₂.pipes, opens₁.pipes]
    have report : t₄.find? w₄ =
        some { resource := .writing (t.pipes + 3), closeOnExec := true } := by
      rw [opens₄.find_writing, opens₃.pipes, opens₂.pipes, opens₁.pipes]
    simp only [List.map_cons, List.map_nil, input, output, error, report]

end

end DescriptorTable

namespace Machine.Host

open DescriptorTable

/-- What the standard descriptors of a child stand for that is launched.  Its output and its errors
go into their pipes, and its report stands until its program is executed; but its input comes from
its pipe only if the supervisor's own descriptor 0 is open, and otherwise the child has none. -/
theorem exists_makePipes {table : DescriptorTable} (tidy : table.IsTidy) :
    ∃ pipes, makePipes table = .ok pipes ∧
      pipes.child.lasting? 0 =
        (if table.isOpen 0 then some (.reading table.pipes) else none) ∧
      pipes.child.lasting? 1 = some (.writing (table.pipes + 1)) ∧
      pipes.child.lasting? 2 = some (.writing (table.pipes + 2)) ∧
      ∃ report, (pipes.child.find? report).map Opening.resource =
        some (.writing (table.pipes + 3)) := by
  obtain ⟨r₁, w₁, t₁, open₁, opens₁⟩ := exists_openPipe tidy
  obtain ⟨r₂, w₂, t₂, open₂, opens₂⟩ := exists_openPipe opens₁.tidy
  obtain ⟨r₃, w₃, t₃, open₃, opens₃⟩ := exists_openPipe opens₂.tidy
  obtain ⟨r₄, w₄, t₄, open₄, opens₄⟩ := exists_openPipe opens₃.tidy
  have stand := standFor_of_opens opens₁ opens₂ opens₃ opens₄
  have low := opens₁.ordered opens₂
  have middle := opens₂.ordered opens₃
  have high := opens₃.ordered opens₄
  obtain ⟨wired, wiring, input, output, error, report⟩ := exists_wireStandard opens₄.tidy stand
  obtain ⟨pipes, made, child⟩ : ∃ pipes, makePipes table = .ok pipes ∧ pipes.child = wired := by
    unfold makePipes
    simp only [open₁, open₂, open₃, open₄, wiring]
    exact ⟨_, rfl, rfl⟩
  have far : ∀ {x y : Int}, x < y → y ≠ x := fun less => Int.ne_of_gt less
  rw [← child] at input output error report
  refine ⟨pipes, made, ?_, ?_, ?_, w₄, ?_⟩
  · rw [input]
    cases standard : table.isOpen 0 with
    | false => rw [if_pos (opens₁.lowest.mpr standard), if_neg Bool.false_ne_true]
    | true =>
        have other : r₁ ≠ 0 := fun zero => by simp [opens₁.lowest.mp zero] at standard
        rw [if_neg other, if_pos rfl]
  · rw [output, if_neg (far (by omega)), if_neg (far (by omega))]
  · rw [error, if_neg (far (by omega)), if_neg (far (by omega)), if_neg (far (by omega))]
  · rw [report, if_neg (far (by omega)), if_neg (far (by omega)), if_neg (far (by omega))]

/-- A supervisor without a standard input. -/
example :
    let ambient : Opening := { resource := .ambient, closeOnExec := false }
    (makePipes { openings := [(1, ambient), (2, ambient)] }).toOption.map (·.child.lasting? 0) =
      some none := by
  decide

end Machine.Host

end Overseer
