import Overseer.Text.Bytes

/-!
# Maps from names to values, in the order of the names

A `NameMap` lists its entries in strictly increasing byte order of the names,
so two maps that answer every look-up alike are equal and a listing needs no
further sorting.
-/

namespace Overseer

/-- A finite map between byte strings, listed in strictly increasing order of
the names. -/
structure NameMap where
  /-- The entries, by increasing name. -/
  entries : List (Bytes × Bytes)
  /-- Names increase strictly, so no name occurs twice. -/
  sorted : entries.Pairwise (fun left right => left.1 < right.1)
deriving DecidableEq

namespace NameMap

/-- Put an entry at its place in a sorted listing, replacing an entry of the
same name. -/
def insertEntry (name value : Bytes) : List (Bytes × Bytes) → List (Bytes × Bytes)
  | [] => [(name, value)]
  | entry :: rest =>
      if name < entry.1 then (name, value) :: entry :: rest
      else if entry.1 < name then entry :: insertEntry name value rest
      else (name, value) :: rest

/-- An entry of the new listing is the inserted one or was there before. -/
theorem mem_insertEntry {name value : Bytes} {entry : Bytes × Bytes}
    {entries : List (Bytes × Bytes)} (hmem : entry ∈ insertEntry name value entries) :
    entry = (name, value) ∨ entry ∈ entries := by
  induction entries with
  | nil => simpa [insertEntry] using hmem
  | cons first rest ih =>
      unfold insertEntry at hmem
      split at hmem
      · simpa using hmem
      · split at hmem
        · rcases List.mem_cons.mp hmem with hfirst | hrest
          · simp [hfirst]
          · rcases ih hrest with hnew | hold
            · exact Or.inl hnew
            · simp [hold]
        · rcases List.mem_cons.mp hmem with hnew | hold
          · exact Or.inl hnew
          · simp [hold]

/-- Names that neither precedes nor follows are equal. -/
theorem eq_of_not_lt {left right : Bytes} (hleft : ¬left < right) (hright : ¬right < left) :
    left = right :=
  List.lex_trichotomous (r := fun a b : UInt8 => a < b)
    (fun _ _ hxy hyx => UInt8.le_antisymm (UInt8.not_lt.mp hyx) (UInt8.not_lt.mp hxy))
    hright hleft

/-- Inserting keeps a listing sorted. -/
theorem pairwise_insertEntry {name value : Bytes} {entries : List (Bytes × Bytes)}
    (hsorted : entries.Pairwise (fun left right => left.1 < right.1)) :
    (insertEntry name value entries).Pairwise (fun left right => left.1 < right.1) := by
  induction entries with
  | nil => simp [insertEntry]
  | cons first rest ih =>
      obtain ⟨hfirst, hrest⟩ := List.pairwise_cons.mp hsorted
      unfold insertEntry
      split
      · next hlt =>
          refine List.pairwise_cons.mpr ⟨?_, hsorted⟩
          intro entry hentry
          rcases List.mem_cons.mp hentry with rfl | hentry
          · exact hlt
          · exact List.lt_trans hlt (hfirst entry hentry)
      · next hnlt =>
          split
          · next hgt =>
              refine List.pairwise_cons.mpr ⟨?_, ih hrest⟩
              intro entry hentry
              rcases mem_insertEntry hentry with rfl | hentry
              · exact hgt
              · exact hfirst entry hentry
          · next hngt =>
              obtain rfl : name = first.1 := eq_of_not_lt hnlt hngt
              exact List.pairwise_cons.mpr ⟨hfirst, hrest⟩

/-- The map without entries. -/
def empty : NameMap :=
  ⟨[], List.Pairwise.nil⟩

instance : Inhabited NameMap :=
  ⟨empty⟩

/-- The map with `name` bound to `value`, whatever it was bound to before. -/
def insert (map : NameMap) (name value : Bytes) : NameMap :=
  ⟨insertEntry name value map.entries, pairwise_insertEntry map.sorted⟩

/-- The map without the entry of `name`. -/
def erase (map : NameMap) (name : Bytes) : NameMap :=
  ⟨map.entries.filter (fun entry => entry.1 ≠ name), map.sorted.filter _⟩

/-- The value bound to `name`. -/
def find? (map : NameMap) (name : Bytes) : Option Bytes :=
  map.entries.lookup name

/-- Whether `name` is bound. -/
def contains (map : NameMap) (name : Bytes) : Bool :=
  (map.find? name).isSome

/-- The map that binds each listed name to the last value listed for it. -/
def ofList (entries : List (Bytes × Bytes)) : NameMap :=
  entries.foldl (fun map entry => map.insert entry.1 entry.2) empty

/-- Whether there is no entry at all. -/
def isEmpty (map : NameMap) : Bool :=
  map.entries.isEmpty

/-- Two maps with the same listing are equal. -/
@[ext]
theorem ext {left right : NameMap} (hentries : left.entries = right.entries) : left = right := by
  cases left
  cases right
  cases hentries
  rfl

@[simp]
theorem find?_empty (name : Bytes) : empty.find? name = none :=
  rfl

/-! ## Looking names up -/

theorem lookup_cons_of_ne {key name : Bytes} (ne : key ≠ name) (value : Bytes)
    (entries : List (Bytes × Bytes)) :
    ((name, value) :: entries).lookup key = entries.lookup key := by
  rw [List.lookup_cons, beq_false_of_ne ne]

/-- Inserting an entry changes what is found for its name only. -/
theorem lookup_insertEntry (name value key : Bytes) (entries : List (Bytes × Bytes)) :
    (insertEntry name value entries).lookup key =
      if key = name then some value else entries.lookup key := by
  induction entries with
  | nil =>
      split
      · next same => rw [same, insertEntry, List.lookup_cons_self]
      · next ne => rw [insertEntry, lookup_cons_of_ne ne]
  | cons first rest ih =>
      obtain ⟨other, old⟩ := first
      unfold insertEntry
      split
      · split
        · next same => rw [same, List.lookup_cons_self]
        · next ne => rw [lookup_cons_of_ne ne]
      · next notBefore =>
          split
          · next before =>
              by_cases same : key = other
              · have apart : key ≠ name := by
                  rintro rfl
                  exact notBefore (same ▸ before)
                rw [same, List.lookup_cons_self, List.lookup_cons_self, if_neg (same ▸ apart)]
              · rw [lookup_cons_of_ne same, lookup_cons_of_ne same, ih]
          · next notAfter =>
              obtain rfl : name = other := eq_of_not_lt notBefore notAfter
              split
              · next same => rw [same, List.lookup_cons_self]
              · next ne => rw [lookup_cons_of_ne ne, lookup_cons_of_ne ne]

theorem find?_insert (map : NameMap) (name value key : Bytes) :
    (map.insert name value).find? key = if key = name then some value else map.find? key :=
  lookup_insertEntry name value key map.entries

/-- What is found for a name is an entry, the only one of that name. -/
theorem find?_eq_some_iff {map : NameMap} {name value : Bytes} :
    map.find? name = some value ↔ (name, value) ∈ map.entries := by
  unfold find?
  rw [List.lookup_eq_some_iff]
  constructor
  · rintro ⟨before, after, split, _⟩
    rw [split]
    exact List.mem_append_right _ List.mem_cons_self
  · intro found
    obtain ⟨before, after, split⟩ := List.append_of_mem found
    refine ⟨before, after, split, ?_⟩
    intro entry earlier
    have sorted := map.sorted
    rw [split, List.pairwise_append] at sorted
    have precedes : entry.1 < name := sorted.2.2 entry earlier _ List.mem_cons_self
    rw [bne_iff_ne]
    rintro rfl
    exact List.lt_irrefl _ precedes

/-- An entry whose name follows all others comes last. -/
theorem insertEntry_of_last {name value : Bytes} {entries : List (Bytes × Bytes)}
    (last : ∀ entry ∈ entries, entry.1 < name) :
    insertEntry name value entries = entries ++ [(name, value)] := by
  induction entries with
  | nil => rfl
  | cons first rest ih =>
      obtain ⟨precedes, later⟩ := List.forall_mem_cons.mp last
      unfold insertEntry
      rw [if_neg (List.lt_asymm precedes), if_pos precedes, ih later, List.cons_append]

theorem ofList_append_singleton (entries : List (Bytes × Bytes)) (entry : Bytes × Bytes) :
    ofList (entries ++ [entry]) = (ofList entries).insert entry.1 entry.2 := by
  simp [ofList]

end NameMap

end Overseer
