import Overseer.Text.NameMap

/-!
# Environments

An environment binds variable names to values.  A program gets it as raw
entries, each a name, an equals sign and a value, which end before their first
NUL.  Reading raw entries takes the name up to the first equals sign, skips
entries that have none or begin with one, and lets a later entry replace an
earlier one of the same name.
-/

namespace Overseer

/-- The variables a program is started with. -/
structure Environment where
  /-- The values, by name. -/
  bindings : NameMap
deriving DecidableEq, Inhabited

namespace Environment

/-- The environment without variables. -/
def empty : Environment :=
  ⟨.empty⟩

/-- Give a variable a value. -/
def set (env : Environment) (name value : Bytes) : Environment :=
  ⟨env.bindings.insert name value⟩

/-- Remove a variable. -/
def unset (env : Environment) (name : Bytes) : Environment :=
  ⟨env.bindings.erase name⟩

/-- The value of a variable. -/
def get? (env : Environment) (name : Bytes) : Option Bytes :=
  env.bindings.find? name

/-- Whether a variable has a value. -/
def isSet (env : Environment) (name : Bytes) : Bool :=
  env.bindings.contains name

/-- The variables by increasing name. -/
def toList (env : Environment) : List (Bytes × Bytes) :=
  env.bindings.entries

/-- The environment of the listed variables. -/
def ofList (bindings : List (Bytes × Bytes)) : Environment :=
  ⟨.ofList bindings⟩

/-- The raw entry of a variable. -/
def encodeEntry (binding : Bytes × Bytes) : Bytes :=
  binding.1 ++ Byte.equals :: binding.2

/-- The raw entries of all variables, by increasing name. -/
def encode (env : Environment) : List Bytes :=
  env.toList.map encodeEntry

/-- Cut a text at its first equals sign. -/
def cutAtEquals : Bytes → Option (Bytes × Bytes)
  | [] => none
  | b :: rest =>
      if b = Byte.equals then some ([], rest)
      else (cutAtEquals rest).map (fun cut => (b :: cut.1, cut.2))

/-- The variable of a raw entry, if it has an equals sign after a name. -/
def decodeEntry? (entry : Bytes) : Option (Bytes × Bytes) :=
  match cutAtEquals (Bytes.untilNul entry) with
  | some ([], _) => none
  | cut => cut

/-- The environment of the given raw entries. -/
def decode (entries : List Bytes) : Environment :=
  ofList (entries.filterMap decodeEntry?)

/-- The value of a variable in a list of raw entries: the first entry of that
name counts. -/
def lookupRaw (entries : List Bytes) (name : Bytes) : Option Bytes :=
  match entries with
  | [] => none
  | entry :: rest =>
      match cutAtEquals (Bytes.untilNul entry) with
      | some (found, value) => if found = name then some value else lookupRaw rest name
      | none => lookupRaw rest name

/-- Without an equals sign there is nothing to cut. -/
theorem cutAtEquals_eq_none_iff {text : Bytes} :
    cutAtEquals text = none ↔ Byte.equals ∉ text := by
  induction text with
  | nil => simp [cutAtEquals]
  | cons b rest ih =>
      unfold cutAtEquals
      split
      · next hequals => simp [hequals]
      · next hne =>
          have hswap : ¬Byte.equals = b := fun heq => hne heq.symm
          simp [ih, hswap]

end Environment

end Overseer
