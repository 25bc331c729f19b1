import Mathlib.Data.List.Basic
import Mathlib.Data.List.Induction
import Overseer.Environment

/-!
# Environments as raw entries

An environment is handed to a program as raw entries and read back from raw entries.  Writing and
reading lose nothing as long as names are not empty and hold no equals sign, and nothing holds a
NUL.

A list of raw entries that were not written by an environment may name a variable twice or hold
entries without a variable.  Reading it says what the list means, and what is written then is the
one list in order that means the same.
-/

namespace Overseer

namespace NameMap

/-- A listing that is in order is what the map of it lists. -/
theorem entries_ofList {entries : List (Bytes × Bytes)}
    (sorted : entries.Pairwise fun left right => left.1 < right.1) :
    (ofList entries).entries = entries := by
  induction entries using List.reverseRecOn with
  | nil => rfl
  | append_singleton entries last ih =>
      obtain ⟨earlier, -, precede⟩ := List.pairwise_append.mp sorted
      rw [ofList_append_singleton]
      refine (congrArg (insertEntry last.1 last.2) (ih earlier)).trans (insertEntry_of_last ?_)
      exact fun entry found => precede entry found last List.mem_cons_self

/-- A map can be got back from its listing. -/
theorem ofList_entries (map : NameMap) : ofList map.entries = map :=
  ext (entries_ofList map.sorted)

end NameMap

namespace Environment

/-- Whether a raw entry gives a value to a variable: the text after its first equals sign, if
that is not its first byte. -/
def Gives (entry name value : Bytes) : Prop :=
  entry = name ++ Byte.equals :: value ∧ name ≠ [] ∧ Byte.equals ∉ name

/-- The name in a raw entry: all that is before the first equals sign. -/
def nameOf (entry : Bytes) : Bytes :=
  entry.takeWhile (· ≠ Byte.equals)

section Entries

variable {entry name value : Bytes}

theorem cutAtEquals_append (avoids : Byte.equals ∉ name) :
    cutAtEquals (name ++ Byte.equals :: value) = some (name, value) := by
  induction name with
  | nil => simp [cutAtEquals]
  | cons first name ih =>
      rw [List.mem_cons, not_or] at avoids
      rw [List.cons_append, cutAtEquals, if_neg (Ne.symm avoids.1), ih avoids.2]
      rfl

/-- A text is cut at its first equals sign. -/
theorem cutAtEquals_eq_some_iff :
    cutAtEquals entry = some (name, value) ↔
      entry = name ++ Byte.equals :: value ∧ Byte.equals ∉ name := by
  constructor
  · intro cut
    have holds : Byte.equals ∈ entry := by
      by_contra avoids
      rw [cutAtEquals_eq_none_iff.mpr avoids] at cut
      contradiction
    obtain ⟨found, rest, rfl, avoids⟩ := List.eq_append_cons_of_mem holds
    rw [cutAtEquals_append avoids] at cut
    obtain ⟨rfl, rfl⟩ := Prod.mk.inj (Option.some.inj cut)
    exact ⟨rfl, avoids⟩
  · rintro ⟨rfl, avoids⟩
    exact cutAtEquals_append avoids

/-- A raw entry without NUL is read as the value it gives. -/
theorem decodeEntry?_eq_some_iff (whole : 0 ∉ entry) :
    decodeEntry? entry = some (name, value) ↔ Gives entry name value := by
  unfold decodeEntry?
  rw [Bytes.untilNul_of_nul_notMem whole]
  split
  · next rest atOnce =>
      constructor
      · intro absurd
        contradiction
      · rintro ⟨same, nonempty, avoids⟩
        have cut := cutAtEquals_eq_some_iff.mpr ⟨same, avoids⟩
        rw [atOnce] at cut
        exact absurd (congrArg Prod.fst (Option.some.inj cut)).symm nonempty
  · next late =>
      rw [cutAtEquals_eq_some_iff]
      constructor
      · rintro ⟨same, avoids⟩
        refine ⟨same, ?_, avoids⟩
        rintro rfl
        exact late value (cutAtEquals_eq_some_iff.mpr ⟨same, avoids⟩)
      · rintro ⟨same, -, avoids⟩
        exact ⟨same, avoids⟩

/-- A raw entry gives nothing just if it has no equals sign or begins with one. -/
theorem exists_gives_iff :
    (∃ name value, Gives entry name value) ↔
      Byte.equals ∈ entry ∧ entry.head? ≠ some Byte.equals := by
  constructor
  · rintro ⟨name, value, rfl, nonempty, avoids⟩
    refine ⟨by simp, ?_⟩
    cases name with
    | nil => contradiction
    | cons first name =>
        intro begins
        obtain rfl : first = Byte.equals := by simpa using begins
        exact avoids List.mem_cons_self
  · rintro ⟨holds, begins⟩
    obtain ⟨name, value, rfl, avoids⟩ := List.eq_append_cons_of_mem holds
    refine ⟨name, value, rfl, ?_, avoids⟩
    rintro rfl
    exact begins rfl

/-- A raw entry has no more than one name. -/
theorem Gives.nameOf_eq (gives : Gives entry name value) : nameOf entry = name := by
  obtain ⟨rfl, -, avoids⟩ := gives
  unfold nameOf
  rw [List.takeWhile_append_of_pos]
  · simp
  · intro b inside
    rw [decide_eq_true_iff]
    rintro rfl
    exact avoids inside

end Entries

theorem get?_set (env : Environment) (name value key : Bytes) :
    (env.set name value).get? key = if key = name then some value else env.get? key :=
  NameMap.find?_insert env.bindings name value key

/-- What is read from raw entries and one more. -/
theorem decode_append_singleton (entries : List Bytes) (entry : Bytes) :
    decode (entries ++ [entry]) =
      match decodeEntry? entry with
      | none => decode entries
      | some (name, value) => (decode entries).set name value := by
  unfold decode
  rw [List.filterMap_append]
  cases read : decodeEntry? entry with
  | none => rw [List.filterMap_cons_none read, List.filterMap_nil, List.append_nil]
  | some binding =>
      rw [List.filterMap_cons_some read, List.filterMap_nil]
      exact congrArg mk (NameMap.ofList_append_singleton _ binding)

/-- Whether a list of raw entries gives a value to a variable and no other value after that. -/
def FinallyGives (entries : List Bytes) (name value : Bytes) : Prop :=
  ∃ before entry after, entries = before ++ entry :: after ∧ Gives entry name value ∧
    ∀ later ∈ after, ∀ other, ¬Gives later name other

theorem finallyGives_append_singleton {entries : List Bytes} {entry name value : Bytes} :
    FinallyGives (entries ++ [entry]) name value ↔
      Gives entry name value ∨
        (∀ other, ¬Gives entry name other) ∧ FinallyGives entries name value := by
  constructor
  · rintro ⟨before, giving, after, split, gives, last⟩
    rcases List.eq_nil_or_concat after with rfl | ⟨after, final, rfl⟩
    · obtain ⟨-, same⟩ := List.append_inj' split rfl
      obtain rfl := List.singleton_inj.mp same
      exact .inl gives
    · rw [List.concat_eq_append] at split last
      rw [← List.cons_append, ← List.append_assoc] at split
      obtain ⟨rfl, same⟩ := List.append_inj' split rfl
      obtain rfl := List.singleton_inj.mp same
      exact .inr ⟨last entry (by simp), before, giving, after, rfl, gives,
        fun later found => last later (List.mem_append_left _ found)⟩
  · rintro (gives | ⟨keeps, before, giving, after, rfl, gives, last⟩)
    · exact ⟨entries, entry, [], rfl, gives, by simp⟩
    · refine ⟨before, giving, after ++ [entry], by simp, gives, ?_⟩
      intro later found
      rcases List.mem_append.mp found with earlier | same
      · exact last later earlier
      · exact List.mem_singleton.mp same ▸ keeps

/-- Of several entries that give a value to a variable, the last one counts. -/
theorem get?_decode_eq_some_iff {entries : List Bytes} {name value : Bytes}
    (whole : ∀ entry ∈ entries, 0 ∉ entry) :
    (decode entries).get? name = some value ↔ FinallyGives entries name value := by
  induction entries using List.reverseRecOn with
  | nil =>
      constructor
      · intro absurd
        contradiction
      · rintro ⟨before, entry, after, split, -⟩
        simp at split
  | append_singleton entries entry ih =>
      rw [List.forall_mem_append, List.forall_mem_singleton] at whole
      rw [decode_append_singleton, finallyGives_append_singleton, ← ih whole.1]
      cases read : decodeEntry? entry with
      | none =>
          have nothing : ∀ other, ¬Gives entry name other := by
            intro other gives
            rw [(decodeEntry?_eq_some_iff whole.2).mpr gives] at read
            contradiction
          simp [nothing]
      | some binding =>
          obtain ⟨found, left⟩ := binding
          have gives : Gives entry found left := (decodeEntry?_eq_some_iff whole.2).mp read
          rw [get?_set]
          by_cases same : name = found
          · rw [if_pos same]
            constructor
            · rintro ⟨rfl⟩
              exact .inl (same ▸ gives)
            · rintro (given | ⟨nothing, -⟩)
              · rw [(decodeEntry?_eq_some_iff whole.2).mpr given] at read
                exact congrArg some (Prod.mk.inj (Option.some.inj read)).2.symm
              · exact absurd (same ▸ gives) (nothing left)
          · have nothing : ∀ other, ¬Gives entry name other := by
              intro other given
              exact same (given.nameOf_eq.symm.trans gives.nameOf_eq)
            rw [if_neg same]
            simp [nothing]

/-- Reading passes over entries that give no value. -/
theorem decode_filter {entries : List Bytes} (whole : ∀ entry ∈ entries, 0 ∉ entry) :
    decode (entries.filter fun entry =>
      Byte.equals ∈ entry ∧ entry.head? ≠ some Byte.equals) = decode entries := by
  unfold decode
  rw [List.filterMap_filter]
  refine congrArg ofList (List.filterMap_congr fun entry found => ?_)
  split
  · rfl
  · next malformed =>
      cases read : decodeEntry? entry with
      | none => rfl
      | some binding =>
          have gives := (decodeEntry?_eq_some_iff (whole entry found)).mp read
          exact absurd (decide_eq_true (exists_gives_iff.mp ⟨_, _, gives⟩)) malformed

/-- Whether every name can be told from its value in a raw entry, and no text of the environment
ends early there. -/
def IsWritable (env : Environment) : Prop :=
  ∀ name value, env.get? name = some value →
    name ≠ [] ∧ Byte.equals ∉ name ∧ 0 ∉ name ∧ 0 ∉ value

section Encode

variable {env : Environment} {entry name value : Bytes}

theorem isWritable_iff :
    env.IsWritable ↔ ∀ binding ∈ env.toList,
      binding.1 ≠ [] ∧ Byte.equals ∉ binding.1 ∧ 0 ∉ binding.1 ∧ 0 ∉ binding.2 := by
  constructor
  · intro writable binding bound
    exact writable binding.1 binding.2 (NameMap.find?_eq_some_iff.mpr bound)
  · intro listed name value bound
    exact listed (name, value) (NameMap.find?_eq_some_iff.mp bound)

instance : Decidable env.IsWritable :=
  decidable_of_iff _ isWritable_iff.symm

theorem mem_encode_iff :
    entry ∈ env.encode ↔
      ∃ name value, env.get? name = some value ∧ entry = name ++ Byte.equals :: value := by
  unfold encode
  rw [List.mem_map]
  constructor
  · rintro ⟨binding, bound, rfl⟩
    exact ⟨binding.1, binding.2, NameMap.find?_eq_some_iff.mpr bound, rfl⟩
  · rintro ⟨name, value, bound, rfl⟩
    exact ⟨(name, value), NameMap.find?_eq_some_iff.mp bound, rfl⟩

/-- What is written for a variable gives its value to it. -/
theorem IsWritable.gives_encodeEntry (writable : env.IsWritable) {binding : Bytes × Bytes}
    (bound : binding ∈ env.toList) :
    0 ∉ encodeEntry binding ∧ Gives (encodeEntry binding) binding.1 binding.2 := by
  obtain ⟨nonempty, avoids, wholeName, wholeValue⟩ :=
    isWritable_iff.mp writable binding bound
  refine ⟨?_, rfl, nonempty, avoids⟩
  simp [encodeEntry, wholeName, wholeValue, Byte.equals]

/-- Reading what an environment writes gives the environment back. -/
theorem IsWritable.decode_encode (writable : env.IsWritable) : decode env.encode = env := by
  have read : env.encode.filterMap decodeEntry? = env.toList :=
    calc
      env.encode.filterMap decodeEntry?
          = env.toList.filterMap fun binding => decodeEntry? (encodeEntry binding) :=
        List.filterMap_map ..
      _ = env.toList.filterMap some := List.filterMap_congr fun binding bound =>
          have ⟨whole, gives⟩ := writable.gives_encodeEntry bound
          (decodeEntry?_eq_some_iff whole).mpr gives
      _ = env.toList := List.filterMap_some
  rw [decode, read]
  exact congrArg mk (NameMap.ofList_entries env.bindings)

/-- An environment writes its variables by increasing name. -/
theorem IsWritable.pairwise_encode (writable : env.IsWritable) :
    env.encode.Pairwise fun earlier later => nameOf earlier < nameOf later := by
  refine List.pairwise_map.mpr (env.bindings.sorted.imp_of_mem fun first second precedes => ?_)
  rw [(writable.gives_encodeEntry first).2.nameOf_eq,
    (writable.gives_encodeEntry second).2.nameOf_eq]
  exact precedes

/-- What was read from whole entries can be written. -/
theorem isWritable_decode {entries : List Bytes} (whole : ∀ entry ∈ entries, 0 ∉ entry) :
    (decode entries).IsWritable := by
  intro name value bound
  obtain ⟨before, entry, after, rfl, ⟨rfl, nonempty, avoids⟩, -⟩ :=
    (get?_decode_eq_some_iff whole).mp bound
  have wholeEntry := whole _ (List.mem_append_right before List.mem_cons_self)
  rw [List.mem_append, List.mem_cons, not_or, not_or] at wholeEntry
  exact ⟨nonempty, avoids, wholeEntry.1, wholeEntry.2.2⟩

end Encode

/-- Writing and reading environments.

* Reading what an environment writes gives it back, if no name is empty or holds an equals sign
  and no name or value holds a NUL.
* Of raw entries without NUL, those that have no equals sign or begin with one are passed over,
  and every other gives a value to a variable.  A variable has the value that the last entry with
  its name gives it.
* What is then written has one entry for every variable, by increasing name, and reads as the
  same environment. -/
theorem encode_and_decode :
    (∀ env : Environment, env.IsWritable → decode env.encode = env) ∧
    ∀ entries : List Bytes, (∀ entry ∈ entries, 0 ∉ entry) →
      (∀ name value, (decode entries).get? name = some value ↔
        FinallyGives entries name value) ∧
      (∀ entry, (∃ name value, Gives entry name value) ↔
        Byte.equals ∈ entry ∧ entry.head? ≠ some Byte.equals) ∧
      decode (entries.filter fun entry =>
        Byte.equals ∈ entry ∧ entry.head? ≠ some Byte.equals) = decode entries ∧
      (∀ entry, entry ∈ (decode entries).encode ↔
        ∃ name value, FinallyGives entries name value ∧
          entry = name ++ Byte.equals :: value) ∧
      ((decode entries).encode.Pairwise fun earlier later => nameOf earlier < nameOf later) ∧
      decode (decode entries).encode = decode entries := by
  refine ⟨fun env writable => writable.decode_encode, fun entries whole => ?_⟩
  have writable := isWritable_decode whole
  have given : ∀ name value, (decode entries).get? name = some value ↔
      FinallyGives entries name value := fun name value => get?_decode_eq_some_iff whole
  refine ⟨given, fun entry => exists_gives_iff, decode_filter whole, fun entry => ?_,
    writable.pairwise_encode, writable.decode_encode⟩
  simp only [mem_encode_iff, given]

/-- Values may hold equals signs or be empty.  In a list of raw entries a variable may be named
twice, and entries without a variable may stand between. -/
theorem encode_and_decode_untidy :
    let env := ofList [(utf8 "PATH", utf8 "/a=b"), (utf8 "EMPTY", [])]
    let entries := [utf8 "B=x=y", utf8 "A=1", utf8 "=C=1", utf8 "D", utf8 "A="]
    (env.IsWritable ∧ env.encode = [utf8 "EMPTY=", utf8 "PATH=/a=b"] ∧ decode env.encode = env) ∧
      (∀ entry ∈ entries, 0 ∉ entry) ∧ FinallyGives entries (utf8 "A") [] ∧
      (decode entries).encode = [utf8 "A=", utf8 "B=x=y"] ∧
      decode (decode entries).encode = decode entries := by
  intro env entries
  have writable : env.IsWritable := by decide
  have whole : ∀ entry ∈ entries, 0 ∉ entry := by decide
  obtain ⟨given, -, -, -, -, again⟩ := encode_and_decode.2 entries whole
  exact ⟨⟨writable, by decide, encode_and_decode.1 env writable⟩, whole,
    (given _ _).mp (by decide), by decide, again⟩

end Environment

end Overseer
