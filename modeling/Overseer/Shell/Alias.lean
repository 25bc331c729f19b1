import Overseer.Text.Bytes

/-!
# Aliases

Names that stand for texts where a command begins, and the order in which a shell
lists the names it keeps: they are put into buckets, and a bucket keeps the order in
which they came.
-/

namespace Overseer.Shell

/-- The bucket of a name among some number of them. -/
def bucket (count : Nat) (name : Bytes) : Nat :=
  let first := (name.headD 0).toNat
  (name.foldl (fun sum b => sum + b.toNat) (16 * first)) % 0x8000 % count

/-- Things with names, bucket by bucket. -/
def inBuckets {α : Type} (count : Nat) (name : α → Bytes) (things : List α) : List α :=
  things.mergeSort (fun left right =>
    decide (bucket count (name left) ≤ bucket count (name right)))

/-- A name that stands for a text. -/
structure Alias where
  /-- The name. -/
  name : Bytes
  /-- The text. -/
  value : Bytes
deriving DecidableEq, Repr

/-- The number of buckets that aliases are put into. -/
def aliasBuckets : Nat :=
  39

/-- Let a name stand for a text, also if it stood for another one. -/
def setAlias (name value : Bytes) : List Alias → List Alias
  | [] => [{ name, value }]
  | a :: rest => if a.name = name then { name, value } :: rest else a :: setAlias name value rest

/-- What a name stands for. -/
def alias? (aliases : List Alias) (name : Bytes) : Option Alias :=
  aliases.find? (fun a => a.name = name)

/-- A text between single quotes; single quotes in it stand between double ones. -/
def inSingleQuotes (text : Bytes) : Bytes :=
  let pieces := Bytes.splitOn Byte.quote text
  go pieces.length pieces
where
  /-- The same for the pieces between the single quotes of a text, of which there are
  at least some number. -/
  go : Nat → List Bytes → Bytes
    | 0, _ | _, [] => []
    | fuel + 1, piece :: rest =>
        let own := Byte.quote :: piece ++ [Byte.quote]
        let gaps := rest.takeWhile List.isEmpty
        let later := rest.drop gaps.length
        if rest.isEmpty then own
        else
          let marks := if later.isEmpty then gaps.length else gaps.length + 1
          own ++ Byte.doubleQuote :: List.replicate marks Byte.quote ++ [Byte.doubleQuote] ++
            go fuel later

/-- An alias as it is listed. -/
def Alias.line (a : Alias) : Bytes :=
  a.name ++ [Byte.equals] ++ inSingleQuotes a.value

/-- All aliases as they are listed. -/
def aliasLines (aliases : List Alias) : List Bytes :=
  (inBuckets aliasBuckets Alias.name aliases).map Alias.line

end Overseer.Shell
