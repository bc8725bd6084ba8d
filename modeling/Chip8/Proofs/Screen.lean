import Chip8.Screen

/-!
# Cells and coordinates

The 2048 cells are the pairs of a column below 64 and a row below 32, read row by
row. Toggling a cell concerns that cell alone, and the touched cells are listed as
coordinates in ascending order, each once.
-/

namespace Chip8.Screen

/-- The column and the row of a cell. -/
def place (target : Fin 2048) : Nat × Nat :=
  (target.val % 64, target.val / 64)

/-- Going from a cell to its coordinates and back gives the same cell. -/
@[simp] theorem cell_place (target : Fin 2048) :
    cell (place target).1 (place target).2 = target := by
  apply Fin.ext
  have bound : target.val < 2048 := target.isLt
  simp only [cell, place]
  omega

/-- On the screen, going from coordinates to their cell and back changes nothing. -/
theorem place_cell {x y : Nat} (column : x < 64) (row : y < 32) :
    place (cell x y) = (x, y) := by
  simp only [place, cell, Prod.mk.injEq]
  omega

/-- Setting one bit of a cell map leaves the others alone. -/
theorem get_set (bits : Vector Bool 2048) (target other : Fin 2048) (bit : Bool) :
    (bits.set target.val bit target.isLt).get other =
      if other = target then bit else bits.get other := by
  change (bits.set target.val bit target.isLt)[other.val] =
    if other = target then bit else bits[other.val]
  simp only [Vector.getElem_set, Fin.ext_iff, eq_comm]

/-- A toggle turns one pixel over and leaves the others. -/
theorem toggle_pixels (screen : Screen) (target other : Fin 2048) :
    (screen.toggle target).pixels.get other =
      if other = target then !screen.pixels.get target else screen.pixels.get other := by
  simp only [toggle, get_set]

/-- A toggle marks one cell as changed and leaves the others. -/
theorem toggle_dirty (screen : Screen) (target other : Fin 2048) :
    (screen.toggle target).dirty.get other =
      if other = target then true else screen.dirty.get other := by
  simp only [toggle, get_set]

/-- The listed coordinates are those of the touched cells. -/
theorem mem_dirtyCells (screen : Screen) (x y : Nat) :
    (x, y) ∈ screen.dirtyCells ↔ x < 64 ∧ y < 32 ∧ screen.isDirty x y = true := by
  simp only [dirtyCells, List.mem_map, List.mem_filter, List.mem_finRange, true_and]
  constructor
  · rintro ⟨target, touched, same⟩
    obtain ⟨rfl, rfl⟩ := Prod.mk.inj same
    have bound : target.val < 2048 := target.isLt
    refine ⟨by omega, by omega, ?_⟩
    have back : cell (target.val % 64) (target.val / 64) = target := cell_place target
    rwa [isDirty, back]
  · rintro ⟨column, row, touched⟩
    exact ⟨cell x y, touched, place_cell column row⟩

/-- A coordinate pair stands before another: in a higher row, or further left in the
same row. -/
def Before (first second : Nat × Nat) : Prop :=
  first.2 < second.2 ∨ first.2 = second.2 ∧ first.1 < second.1

/-- A cell does not come before itself. -/
theorem ne_of_before {first second : Nat × Nat} (ordered : Before first second) :
    first ≠ second := by
  rintro rfl
  simp only [Before] at ordered
  omega

/-- Cells in ascending order have coordinates row by row, and left to right in each
row. -/
theorem before_place {first second : Fin 2048} (ascending : first < second) :
    Before (place first) (place second) := by
  have order : first.val < second.val := ascending
  simp only [Before, place]
  omega

/-- The touched cells are listed row by row, and left to right in each row. -/
theorem pairwise_dirtyCells (screen : Screen) : screen.dirtyCells.Pairwise Before := by
  have ascending : ((List.finRange 2048).filter screen.dirty.get).Pairwise (· < ·) :=
    (List.pairwise_lt_finRange 2048).filter _
  exact List.Pairwise.map place (fun _ _ => before_place) ascending

end Chip8.Screen
