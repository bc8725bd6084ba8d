/-!
# The screen

A monochrome picture of 64 by 32 pixels, stored row by row, and beside it the
cells touched since the last time the picture was shown. Coordinates wrap around
both edges. A cell counts as touched when a sprite toggles it, even if a second
toggle restores its pixel, and clearing the screen touches every cell.
-/

namespace Chip8

/-- The picture and its touched cells. -/
structure Screen where
  pixels : Vector Bool 2048
  dirty : Vector Bool 2048
  deriving DecidableEq, Repr

/-- A sprite drawn: whether some pixel went from on to off, and the new screen. -/
structure Drawing where
  collision : Bool
  screen : Screen
  deriving DecidableEq, Repr

namespace Screen

/-- Pixels in a row. -/
def width : Nat := 64

/-- Number of rows. -/
def height : Nat := 32

/-- Number of cells. -/
def cells : Nat := 2048

/-- The cell of a coordinate pair after wrapping. -/
def cell (x y : Nat) : Fin 2048 :=
  ⟨y % 32 * 64 + x % 64, by omega⟩

/-- Every pixel is off and no cell is touched. -/
def blank : Screen :=
  ⟨Vector.replicate 2048 false, Vector.replicate 2048 false⟩

/-- Whether a pixel is on. -/
def get (screen : Screen) (x y : Nat) : Bool :=
  screen.pixels.get (cell x y)

/-- Whether a cell has been touched. -/
def isDirty (screen : Screen) (x y : Nat) : Bool :=
  screen.dirty.get (cell x y)

/-- Whether every pixel is off. -/
def isEmpty (screen : Screen) : Bool :=
  !screen.pixels.any id

/-- Whether some cell has been touched. -/
def hasDirty (screen : Screen) : Bool :=
  screen.dirty.any id

/-- The touched cells as column and row, row by row. -/
def dirtyCells (screen : Screen) : List (Nat × Nat) :=
  ((List.finRange 2048).filter screen.dirty.get).map
    fun touched => (touched.val % 64, touched.val / 64)

/-- Forget which cells were touched. -/
def clearDirty (screen : Screen) : Screen :=
  { screen with dirty := Vector.replicate 2048 false }

/-- Turn every pixel off and touch every cell. -/
def clear (_ : Screen) : Screen :=
  ⟨Vector.replicate 2048 false, Vector.replicate 2048 true⟩

/-- Flip a pixel and touch its cell. -/
def toggle (screen : Screen) (target : Fin 2048) : Screen :=
  { pixels := screen.pixels.set target.val (!screen.pixels.get target)
    dirty := screen.dirty.set target.val true }

/-- The columns, from the left, in which a sprite row has a pixel. -/
def litColumns (row : UInt8) : List Nat :=
  (List.range 8).filter fun column => row.toNat.testBit (7 - column)

/-- The cells a sprite toggles with its top left corner at a coordinate pair, row
by row. A sprite of more rows than the screen names a cell more than once. -/
def spriteCells (x y : Nat) : List UInt8 → List (Fin 2048)
  | [] => []
  | row :: rows =>
    (litColumns row).map (fun column => cell (x + column) y) ++ spriteCells x (y + 1) rows

/-- Toggle one cell of a drawing; a pixel that was on is a collision. -/
def Drawing.toggle (drawing : Drawing) (target : Fin 2048) : Drawing :=
  { collision := drawing.collision || drawing.screen.pixels.get target
    screen := drawing.screen.toggle target }

/-- Draw a sprite by toggling its cells one after the other. -/
def drawSprite (screen : Screen) (x y : UInt8) (rows : List UInt8) : Drawing :=
  (spriteCells x.toNat y.toNat rows).foldl Drawing.toggle ⟨false, screen⟩

/-- One value for each pixel, row by row. -/
def toPixels (screen : Screen) (on off : UInt32) : List UInt32 :=
  screen.pixels.toList.map fun lit => if lit then on else off

/-- A row of the screen as text, a full block for each lit pixel, without the
blanks at its end. -/
def line (screen : Screen) (y : Nat) : List Char :=
  let row := (List.range 64).map fun x => if screen.get x y then '█' else ' '
  (row.reverse.dropWhile (· == ' ')).reverse

/-- The whole screen as text, each row ended by a line feed. -/
def text (screen : Screen) : String :=
  String.ofList ((List.range 32).flatMap fun y => screen.line y ++ ['\n'])

end Screen

end Chip8
