import Overseer.Machine.Printing
import Overseer.Text.Quoting

/-!
# Names in columns

Names are laid out in lines of a width: one after the other between commas, or in
columns as many as fit, each as wide as its widest name with a gap of two.
-/

namespace Overseer.Machine

/-- How wide lines are, and how far apart tabs. -/
structure PageWidth where
  /-- The width of lines, zero if they have no end. -/
  line : Nat := 80
  /-- The distance of tabs, zero if there are none. -/
  tab : Nat := 8

/-- The least width of a column. -/
def leastColumn : Nat :=
  3

/-- How far apart columns are. -/
def columnGap : Nat :=
  2

/-- How much room a name takes: what cannot be seen takes none. -/
def shownWidth (name : Bytes) : Nat :=
  name.countP Quoting.isPrintable

/-- Names with a sign between them, in lines of a width. -/
def separated (page : PageWidth) (sign : Bytes) : Nat → List Bytes → Bytes
  | _, [] => []
  | _, [name] => name
  | position, name :: next :: rest =>
      let position := position + shownWidth name
      if page.line = 0 || position + shownWidth next + 2 < page.line then
        name ++ sign ++ [Byte.space] ++ separated page sign (position + 2) (next :: rest)
      else name ++ sign ++ [Byte.newline] ++ separated page sign 0 (next :: rest)

/-- In which column a name stands, given its number, how many there are, and how many
columns. -/
def columnOf (downwards : Bool) (index total columns : Nat) : Nat :=
  if downwards then index / ((total + columns - 1) / columns) else index % columns

/-- The widths of so many columns. -/
def columnWidths (downwards : Bool) (widths : List Nat) (columns : Nat) : List Nat :=
  widths.zipIdx.foldl
    (fun result (width, index) =>
      let column := columnOf downwards index widths.length columns
      let needed := if column + 1 = columns then width else width + columnGap
      result.modify column (max needed))
    (List.replicate columns leastColumn)

/-- The widths of as many columns as fit. -/
def fittingColumns (page : PageWidth) (downwards : Bool) (widths : List Nat) : List Nat :=
  let most := min widths.length (max 1 ((page.line + leastColumn - 1) / leastColumn))
  let candidates := (List.range most).reverse.map (fun n => columnWidths downwards widths (n + 1))
  let fits (widths : List Nat) : Bool := widths.foldl (· + ·) 0 < page.line || widths.length ≤ 1
  (candidates.find? fits).getD []

/-- What leads from one position on a line to another; the first argument bounds the
distance. -/
def gapTo (page : PageWidth) : Nat → Nat → Nat → Bytes
  | 0, _, _ => []
  | fuel + 1, position, goal =>
      if goal ≤ position then []
      else if page.tab ≠ 0 && (position + 1) / page.tab < goal / page.tab then
        Byte.tab :: gapTo page fuel (position + page.tab - position % page.tab) goal
      else Byte.space :: gapTo page fuel (position + 1) goal

/-- One line of names in columns. -/
def columnLine (page : PageWidth) : Nat → List (Nat × Bytes) → Bytes
  | _, [] => []
  | _, [(_, name)] => name
  | position, (width, name) :: rest =>
      name ++ gapTo page (width + 1) (position + shownWidth name) (position + width) ++
        columnLine page (position + width) rest

/-- The lines of names in columns, which run downwards or across. -/
def inColumns (page : PageWidth) (downwards : Bool) (names : List Bytes) : Bytes :=
  let widths := fittingColumns page downwards (names.map shownWidth)
  let rows := (names.length + widths.length - 1) / widths.length
  let line (row : Nat) : List Bytes :=
    if downwards then
      (List.range widths.length).filterMap (fun column => names[row + column * rows]?)
    else (names.drop (row * widths.length)).take widths.length
  unlines ((List.range rows).map (fun row => columnLine page 0 (widths.zip (line row))))

end Overseer.Machine
