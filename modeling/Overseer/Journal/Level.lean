import Overseer.Text.Bytes

/-!
# Levels of a journal

Levels are ranked by integers, a higher rank being more severe.  Six ranks have
names; the last of them, `off`, is no level to write at but one that silences a
journal.
-/

namespace Overseer

/-- The severity of a line, or the least severity a journal writes. -/
structure Level where
  /-- The rank among the levels. -/
  rank : Int
deriving DecidableEq, Inhabited, Repr

namespace Level

/-- The finest level. -/
def trace : Level := ⟨0⟩
/-- The level of the steps of an execution. -/
def debug : Level := ⟨1⟩
/-- The level of general information. -/
def info : Level := ⟨2⟩
/-- The level of faults that are overcome. -/
def warning : Level := ⟨3⟩
/-- The level of faults that are not overcome. -/
def error : Level := ⟨4⟩
/-- The level that silences a journal. -/
def off : Level := ⟨5⟩

/-- The levels that have a name. -/
def named : List (String × Level) :=
  [("trace", trace), ("debug", debug), ("info", info), ("warning", warning), ("error", error),
    ("off", off)]

/-- The level of a name, spelled exactly. -/
def ofName? (name : Bytes) : Option Level :=
  (named.find? (fun entry => utf8 entry.1 = name)).map (·.2)

/-- The name of a level; ranks without one share a name of their own. -/
def name (level : Level) : String :=
  match named.find? (fun entry => entry.2 = level) with
  | some entry => entry.1
  | none => "unknown"

/-- The level a setting asks for; without one, or with one that names no level,
warnings are written. -/
def ofSetting (setting : Option Bytes) : Level :=
  (setting.bind ofName?).getD warning

/-- Whether a journal with the given least level writes lines of a level. -/
def isWritten (minimum level : Level) : Bool :=
  level ≠ off && minimum.rank ≤ level.rank

/-- Nothing is written at the silencing level. -/
@[simp]
theorem isWritten_off (minimum : Level) : isWritten minimum off = false := by
  simp [isWritten]

end Level

end Overseer
