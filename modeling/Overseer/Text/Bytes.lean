/-!
# Byte strings

Every text the supervisor handles is a list of bytes: arguments, environment
entries, paths and stream contents need not be valid UTF-8 and may hold any
byte.  Text written in this library is encoded by `utf8`.
-/

namespace Overseer

/-- A byte string. -/
abbrev Bytes := List UInt8

/-- The UTF-8 encoding of a string. -/
def utf8 (s : String) : Bytes :=
  s.toList.flatMap String.utf8EncodeChar

/-- The decimal digits of an integer, after a minus sign if it is negative. -/
def decimal (n : Int) : Bytes :=
  match n with
  | .ofNat m => utf8 (Nat.repr m)
  | .negSucc m => utf8 "-" ++ utf8 (Nat.repr (m + 1))

namespace Byte

/-- A space. -/
def space : UInt8 := 0x20
/-- A horizontal tab. -/
def tab : UInt8 := 0x09
/-- A line feed. -/
def newline : UInt8 := 0x0a
/-- A carriage return. -/
def carriageReturn : UInt8 := 0x0d
/-- A single quote. -/
def quote : UInt8 := 0x27
/-- A double quote. -/
def doubleQuote : UInt8 := 0x22
/-- A backslash. -/
def backslash : UInt8 := 0x5c
/-- A dollar sign. -/
def dollar : UInt8 := 0x24
/-- An opening brace. -/
def openBrace : UInt8 := 0x7b
/-- A closing brace. -/
def closeBrace : UInt8 := 0x7d
/-- An equals sign. -/
def equals : UInt8 := 0x3d
/-- A colon. -/
def colon : UInt8 := 0x3a
/-- A slash. -/
def slash : UInt8 := 0x2f
/-- A full stop. -/
def dot : UInt8 := 0x2e

/-- The six ASCII white-space bytes. -/
def isBlank (b : UInt8) : Bool :=
  b = space || (tab ≤ b && b ≤ carriageReturn)

/-- A space or a tab. -/
def isGap (b : UInt8) : Bool :=
  b = space || b = tab

/-- An ASCII decimal digit. -/
def isDigit (b : UInt8) : Bool :=
  0x30 ≤ b && b ≤ 0x39

/-- An ASCII letter or an underscore. -/
def isNameStart (b : UInt8) : Bool :=
  (0x41 ≤ b && b ≤ 0x5a) || (0x61 ≤ b && b ≤ 0x7a) || b = 0x5f

/-- A byte that may continue a name. -/
def isNamePart (b : UInt8) : Bool :=
  isNameStart b || isDigit b

end Byte

namespace Bytes

/-- The part of a byte string that a NUL-terminated interface sees. -/
def untilNul (s : Bytes) : Bytes :=
  s.takeWhile (· ≠ 0)

/-- A byte string put between double quotes, with each double quote and each
backslash preceded by a backslash. -/
def quoted (s : Bytes) : Bytes :=
  Byte.doubleQuote ::
    s.flatMap
      (fun b => if b = Byte.doubleQuote || b = Byte.backslash then [Byte.backslash, b] else [b]) ++
    [Byte.doubleQuote]

/-- The pieces between the occurrences of a separator byte; there is always at
least one, and it may be empty. -/
def splitOn (separator : UInt8) : Bytes → List Bytes
  | [] => [[]]
  | b :: rest =>
      if b = separator then [] :: splitOn separator rest
      else
        match splitOn separator rest with
        | [] => [[b]]
        | piece :: pieces => (b :: piece) :: pieces

/-- The pieces with a separator written between neighbours. -/
def joinWith (separator : Bytes) : List Bytes → Bytes
  | [] => []
  | [piece] => piece
  | piece :: pieces => piece ++ separator ++ joinWith separator pieces

/-- What a NUL-terminated interface sees holds no NUL. -/
theorem nul_notMem_untilNul (s : Bytes) : 0 ∉ untilNul s := by
  induction s with
  | nil => simp [untilNul]
  | cons b rest ih =>
      by_cases hb : b = 0
      · simp [untilNul, hb]
      · simp [untilNul, hb, Ne.symm hb] at ih ⊢
        exact ih

/-- A NUL-terminated interface sees all of a byte string without NUL. -/
theorem untilNul_of_nul_notMem {s : Bytes} (hs : 0 ∉ s) : untilNul s = s := by
  induction s with
  | nil => rfl
  | cons b rest ih =>
      simp only [List.mem_cons, not_or] at hs
      simpa [untilNul, Ne.symm hs.1] using ih hs.2

/-- A byte string all of which a NUL-terminated interface sees holds no NUL. -/
theorem nul_notMem_of_untilNul_eq {s : Bytes} (hs : untilNul s = s) : 0 ∉ s :=
  hs ▸ nul_notMem_untilNul s

/-- Splitting never yields an empty list of pieces. -/
theorem splitOn_ne_nil (separator : UInt8) (s : Bytes) : splitOn separator s ≠ [] := by
  cases s with
  | nil => simp [splitOn]
  | cons b rest =>
      unfold splitOn
      split
      · simp
      · split <;> simp

theorem splitOn_of_notMem {separator : UInt8} {piece : Bytes} (whole : separator ∉ piece) :
    splitOn separator piece = [piece] := by
  induction piece with
  | nil => rfl
  | cons b piece ih =>
      rw [List.mem_cons, not_or] at whole
      rw [splitOn, if_neg (Ne.symm whole.1), ih whole.2]

/-- A piece goes up to the first separator. -/
theorem splitOn_append_cons {separator : UInt8} {piece : Bytes} (whole : separator ∉ piece)
    (rest : Bytes) :
    splitOn separator (piece ++ separator :: rest) = piece :: splitOn separator rest := by
  induction piece with
  | nil => rw [List.nil_append, splitOn, if_pos rfl]
  | cons b piece ih =>
      rw [List.mem_cons, not_or] at whole
      rw [List.cons_append, splitOn, if_neg (Ne.symm whole.1), ih whole.2]

theorem joinWith_cons (separator piece : Bytes) {pieces : List Bytes} (more : pieces ≠ []) :
    joinWith separator (piece :: pieces) = piece ++ separator ++ joinWith separator pieces := by
  cases pieces with
  | nil => contradiction
  | cons next pieces => rfl

end Bytes

end Overseer
