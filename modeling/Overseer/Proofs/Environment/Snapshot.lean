import Mathlib.Data.List.Nodup
import Overseer.Proofs.Environment.Codec

/-!
# Environments that are inherited

A program that looks a variable up in its raw entries takes the first entry with its name, while
reading all of them lets the last one count.  Where every entry gives a value and no name occurs
twice there is no difference, and writing what was read gives the same entries, by increasing name.
-/

namespace Overseer.Environment

/-- Whether a list of raw entries gives a value to a variable and no other value before that. -/
def FirstGives (entries : List Bytes) (name value : Bytes) : Prop :=
  ∃ before entry after, entries = before ++ entry :: after ∧
    Gives (Bytes.untilNul entry) name value ∧
    ∀ earlier ∈ before, ∀ other, ¬Gives (Bytes.untilNul earlier) name other

section

variable {entries : List Bytes} {entry name value : Bytes}

theorem lookupRaw_cons_of_gives (gives : Gives (Bytes.untilNul entry) name value) :
    lookupRaw (entry :: entries) name = some value := by
  obtain ⟨same, -, avoids⟩ := gives
  rw [lookupRaw, cutAtEquals_eq_some_iff.mpr ⟨same, avoids⟩]
  exact if_pos rfl

theorem lookupRaw_cons_of_not_gives (nonempty : name ≠ [])
    (other : ∀ value, ¬Gives (Bytes.untilNul entry) name value) :
    lookupRaw (entry :: entries) name = lookupRaw entries name := by
  rw [lookupRaw]
  cases cut : cutAtEquals (Bytes.untilNul entry) with
  | none => rfl
  | some parts =>
      obtain ⟨found, left⟩ := parts
      obtain ⟨same, avoids⟩ := cutAtEquals_eq_some_iff.mp cut
      refine if_neg ?_
      rintro rfl
      exact other left ⟨same, nonempty, avoids⟩

/-- Of several entries that give a value to a variable, looking it up takes the first one. -/
theorem lookupRaw_eq_some_iff (nonempty : name ≠ []) :
    lookupRaw entries name = some value ↔ FirstGives entries name value := by
  induction entries with
  | nil => simp [lookupRaw, FirstGives]
  | cons entry entries ih =>
      by_cases given : ∃ other, Gives (Bytes.untilNul entry) name other
      · obtain ⟨other, gives⟩ := given
        rw [lookupRaw_cons_of_gives gives]
        constructor
        · rintro ⟨rfl⟩
          exact ⟨[], entry, entries, rfl, gives, by simp⟩
        · rintro ⟨before, first, after, split, gives', others⟩
          cases before with
          | nil =>
              obtain ⟨rfl, -⟩ := List.cons.inj split
              have same := gives.1.symm.trans gives'.1
              rw [List.append_cancel_left_eq] at same
              exact congrArg some (List.cons.inj same).2
          | cons earlier before =>
              obtain ⟨rfl, -⟩ := List.cons.inj split
              exact absurd gives (others entry List.mem_cons_self other)
      · rw [not_exists] at given
        rw [lookupRaw_cons_of_not_gives nonempty given, ih]
        constructor
        · rintro ⟨before, first, after, rfl, gives, others⟩
          exact ⟨entry :: before, first, after, rfl, gives,
            List.forall_mem_cons.mpr ⟨given, others⟩⟩
        · rintro ⟨before, first, after, split, gives, others⟩
          cases before with
          | nil =>
              obtain ⟨rfl, -⟩ := List.cons.inj split
              exact absurd gives (given value)
          | cons earlier before =>
              obtain ⟨rfl, rfl⟩ := List.cons.inj split
              exact ⟨before, first, after, rfl, gives, (List.forall_mem_cons.mp others).2⟩

end

/-! ## Entries in good order -/

/-- Whether raw entries each give a value to a variable, all to different ones. -/
structure IsTidy (entries : List Bytes) : Prop where
  /-- No entry holds a NUL. -/
  whole : ∀ entry ∈ entries, 0 ∉ entry
  /-- Every entry gives a value. -/
  gives : ∀ entry ∈ entries, ∃ name value, Gives entry name value
  /-- No two entries have the same name. -/
  distinct : (entries.map nameOf).Nodup

namespace IsTidy

variable {entries : List Bytes} {entry name value : Bytes}

/-- Two entries that give a value to the same variable are one. -/
theorem eq_of_gives (tidy : IsTidy entries) {other : Bytes} {value' : Bytes}
    (found : entry ∈ entries) (found' : other ∈ entries) (gives : Gives entry name value)
    (gives' : Gives other name value') : entry = other :=
  List.inj_on_of_nodup_map tidy.distinct found found' (gives.nameOf_eq.trans gives'.nameOf_eq.symm)

/-- Around an entry no other one gives a value to its variable. -/
theorem exists_split (tidy : IsTidy entries) (found : entry ∈ entries)
    (gives : Gives entry name value) :
    ∃ before after, entries = before ++ entry :: after ∧
      ∀ other ∈ before ++ after, ∀ value, ¬Gives other name value := by
  obtain ⟨before, after, split⟩ := List.append_of_mem found
  refine ⟨before, after, split, ?_⟩
  intro other mem value' gives'
  have found' : other ∈ entries := by
    rw [split]
    exact (List.perm_middle.mem_iff).mpr (List.mem_cons_of_mem entry mem)
  obtain rfl := tidy.eq_of_gives found found' gives gives'
  have once := List.Nodup.of_map nameOf tidy.distinct
  rw [split, List.nodup_middle, List.nodup_cons] at once
  exact once.1 mem

theorem finallyGives_iff (tidy : IsTidy entries) :
    FinallyGives entries name value ↔ ∃ entry ∈ entries, Gives entry name value := by
  constructor
  · rintro ⟨before, entry, after, rfl, gives, -⟩
    exact ⟨entry, by simp, gives⟩
  · rintro ⟨entry, found, gives⟩
    obtain ⟨before, after, split, others⟩ := tidy.exists_split found gives
    exact ⟨before, entry, after, split, gives,
      fun later mem => others later (List.mem_append_right before mem)⟩

theorem firstGives_iff (tidy : IsTidy entries) :
    FirstGives entries name value ↔ ∃ entry ∈ entries, Gives entry name value := by
  have visible : ∀ entry ∈ entries, Bytes.untilNul entry = entry := fun entry found =>
    Bytes.untilNul_of_nul_notMem (tidy.whole entry found)
  constructor
  · rintro ⟨before, entry, after, split, gives, -⟩
    have found : entry ∈ entries := by simp [split]
    exact ⟨entry, found, visible entry found ▸ gives⟩
  · rintro ⟨entry, found, gives⟩
    obtain ⟨before, after, split, others⟩ := tidy.exists_split found gives
    refine ⟨before, entry, after, split, (visible entry found).symm ▸ gives, ?_⟩
    intro earlier mem
    rw [visible earlier (by simp [split, mem])]
    exact others earlier (List.mem_append_left after mem)

/-- Looking a variable up in the raw entries finds the value that reading them gives it. -/
theorem lookupRaw_eq_get? (tidy : IsTidy entries) (nonempty : name ≠ []) :
    lookupRaw entries name = (decode entries).get? name := by
  apply Option.ext
  intro value
  rw [lookupRaw_eq_some_iff nonempty, get?_decode_eq_some_iff tidy.whole, tidy.firstGives_iff,
    tidy.finallyGives_iff]

/-- What is written after reading are the same entries, in another order. -/
theorem encode_decode_perm (tidy : IsTidy entries) : (decode entries).encode.Perm entries := by
  have writable := isWritable_decode tidy.whole
  have once : (decode entries).encode.Nodup := by
    refine writable.pairwise_encode.imp ?_
    rintro earlier later precedes rfl
    exact List.lt_irrefl _ precedes
  rw [List.perm_ext_iff_of_nodup once (List.Nodup.of_map nameOf tidy.distinct)]
  intro entry
  simp only [mem_encode_iff, get?_decode_eq_some_iff tidy.whole, tidy.finallyGives_iff]
  constructor
  · rintro ⟨name, value, ⟨entry, found, same, -⟩, rfl⟩
    exact same ▸ found
  · intro found
    obtain ⟨name, value, gives⟩ := tidy.gives entry found
    exact ⟨name, value, ⟨entry, found, gives⟩, gives.1⟩

theorem of_perm (tidy : IsTidy entries) {entries' : List Bytes} (perm : entries'.Perm entries) :
    IsTidy entries' where
  whole entry found := tidy.whole entry (perm.mem_iff.mp found)
  gives entry found := tidy.gives entry (perm.mem_iff.mp found)
  distinct := (perm.map nameOf).nodup_iff.mpr tidy.distinct

end IsTidy

end Overseer.Environment
