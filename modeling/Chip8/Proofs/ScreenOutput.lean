import Mathlib.Data.List.DropRight
import Chip8.Proofs.Screen

/-!
# What the outputs of a screen tell

A screen is put out as text and as one value for each pixel. A line of the text loses the blanks
at its end and nothing else, so a lit pixel keeps its place and a pixel without a character is
dark; the lines are found again at their line feeds. The values stand in the order of the cells.
Either output therefore says which pixels are on.
-/

namespace Chip8

/-- An entry that is not dropped from the end of a list keeps its place. -/
theorem getElem?_rdropWhile {α : Type} {drops : α → Bool} {entries : List α} {place : Nat}
    {entry : α} (found : entries[place]? = some entry) (kept : drops entry = false) :
    (entries.rdropWhile drops)[place]? = some entry := by
  have split : entries.rdropWhile drops ++ entries.rtakeWhile drops = entries :=
    List.rdropWhile_append_rtakeWhile
  rw [← split] at found
  by_cases inside : place < (entries.rdropWhile drops).length
  · rwa [List.getElem?_append_left inside] at found
  · rw [List.getElem?_append_right (Nat.le_of_not_lt inside)] at found
    have dropped := List.mem_rtakeWhile_imp (List.mem_of_getElem? found)
    exact absurd dropped (Bool.eq_false_iff.mp kept)

/-- Lines that were each ended by a line feed are what stands between the line feeds, with
nothing behind the last one. -/
theorem splitOn_lines {lines : List (List Char)} (unbroken : ∀ line ∈ lines, '\n' ∉ line) :
    (lines.flatMap (· ++ ['\n'])).splitOn '\n' = lines ++ [[]] := by
  induction lines with
  | nil => rfl
  | cons line rest inductionHypothesis =>
    obtain ⟨here, later⟩ := List.forall_mem_cons.mp unbroken
    rw [List.flatMap_cons, List.append_assoc, List.singleton_append,
      List.splitOn_append_cons_self_of_not_mem here, inductionHypothesis later, List.cons_append]

namespace Screen

/-- Screens with the same pixels in all places have the same pixels. -/
theorem ext_get {first second : Screen}
    (same : ∀ x < 64, ∀ y < 32, first.get x y = second.get x y) : first.pixels = second.pixels := by
  apply Vector.ext
  intro place inside
  have back : cell (place % 64) (place / 64) = ⟨place, inside⟩ := cell_place ⟨place, inside⟩
  have equal := same (place % 64) (Nat.mod_lt _ (by decide)) (place / 64) (by omega)
  rwa [get, get, back] at equal

section Lines

variable (screen : Screen) (y : Nat)

/-- A row of the screen as text, with the blanks at its end. -/
def row : List Char :=
  (List.range 64).map fun x => if screen.get x y then '█' else ' '

/-- A row goes on behind the end of its line. -/
theorem line_prefix : screen.line y <+: screen.row y :=
  List.rdropWhile_prefix _ _

/-- Each column of a printed row shows its pixel. -/
theorem getElem?_row {x : Nat} (column : x < 64) :
    (screen.row y)[x]? = some (if screen.get x y then '█' else ' ') := by
  rw [row, List.getElem?_map, List.getElem?_range column, Option.map_some]

/-- The characters of a line are blocks and blanks, so that a line stays in one piece. -/
theorem newline_notMem_line : '\n' ∉ screen.line y := by
  intro member
  obtain ⟨x, -, drawn⟩ := List.mem_map.mp ((screen.line_prefix y).mem member)
  cases lit : screen.get x y <;> rw [lit] at drawn <;> exact absurd drawn (by decide)

/-- No line ends in a blank. -/
theorem getLast?_line : (screen.line y).getLast? ≠ some ' ' := by
  intro ends
  obtain ⟨filled, blank⟩ := List.mem_getLast?_eq_getLast ends
  apply List.rdropWhile_last_not (· == ' ') (screen.row y) filled
  exact beq_iff_eq.mpr blank.symm

/-- A pixel is on exactly where its line has a block. -/
theorem getElem?_line_iff {x : Nat} (column : x < 64) :
    (screen.line y)[x]? = some '█' ↔ screen.get x y = true := by
  have drawn := screen.getElem?_row y column
  constructor
  -- What a line shows, its row shows in the same place.
  · intro block
    obtain ⟨blanks, joined⟩ := screen.line_prefix y
    obtain ⟨inside, -⟩ := List.getElem?_eq_some_iff.mp block
    rw [← joined, List.getElem?_append_left inside, block] at drawn
    by_contra dark
    rw [if_neg dark] at drawn
    exact absurd (Option.some.inj drawn) (by decide)
  · intro lit
    rw [lit] at drawn
    exact getElem?_rdropWhile drawn (by decide)

end Lines

section Text

variable (screen : Screen)

/-- The lines of a screen, from the top. -/
def lines : List (List Char) :=
  (List.range 32).map screen.line

/-- The printed screen consists of its lines, each with a line break behind it. -/
theorem text_toList : screen.text.toList = screen.lines.flatMap (· ++ ['\n']) := by
  rw [text, String.toList_ofList, lines, List.flatMap_map]

/-- The lines are found again in the text. -/
theorem splitOn_text : screen.text.toList.splitOn '\n' = screen.lines ++ [[]] := by
  rw [text_toList]
  apply splitOn_lines
  intro line member
  obtain ⟨y, -, rfl⟩ := List.mem_map.mp member
  exact screen.newline_notMem_line y

/-- Each line of the printed screen is the line of its row. -/
theorem getElem?_lines {y : Nat} (inside : y < 32) : screen.lines[y]? = some (screen.line y) := by
  rw [lines, List.getElem?_map, List.getElem?_range inside, Option.map_some]

/-- The text of a screen decides which pixels are on. -/
theorem text_inj {first second : Screen} (same : first.text = second.text) :
    first.pixels = second.pixels := by
  have lines : first.lines = second.lines := by
    have split := congrArg (·.toList.splitOn '\n') same
    simp only [splitOn_text] at split
    exact List.append_cancel_right split
  apply ext_get
  intro x column y inside
  have line : first.line y = second.line y := by
    apply Option.some.inj
    rw [← getElem?_lines first inside, ← getElem?_lines second inside, lines]
  rw [Bool.eq_iff_iff, ← getElem?_line_iff first y column, ← getElem?_line_iff second y column,
    line]

end Text

section Pixels

variable (screen : Screen) (on off : UInt32)

/-- There is one pixel value for each cell. -/
theorem length_toPixels : (screen.toPixels on off).length = 2048 := by
  rw [toPixels, List.length_map, Vector.length_toList]

/-- The value of a pixel stands behind those of the rows above and of the pixels to its left. -/
theorem getElem?_toPixels {x y : Nat} (column : x < 64) (inside : y < 32) :
    (screen.toPixels on off)[y * 64 + x]? = some (if screen.get x y then on else off) := by
  have place : y * 64 + x = (cell x y).val := by
    simp only [cell]
    omega
  rw [toPixels, List.getElem?_map, place, Vector.getElem?_toList,
    Vector.getElem?_eq_getElem (cell x y).isLt, Option.map_some]
  rfl

/-- With two distinct values the pixel values decide which pixels are on. -/
theorem toPixels_inj {first second : Screen} (distinct : on ≠ off)
    (same : first.toPixels on off = second.toPixels on off) : first.pixels = second.pixels := by
  apply ext_get
  intro x column y inside
  have value := first.getElem?_toPixels on off column inside
  rw [same, second.getElem?_toPixels on off column inside] at value
  cases lit : first.get x y <;> cases other : second.get x y <;>
    simp [lit, other, distinct, distinct.symm] at value ⊢

end Pixels

/-- Coordinates count only modulo the width and the height of the screen. -/
theorem get_mod (screen : Screen) (x y : Nat) : screen.get x y = screen.get (x % 64) (y % 32) := by
  rw [get, get, cell, cell]
  simp only [Nat.mod_mod]

/-- The outputs of a screen lose nothing and agree. Its text consists of 32 lines, each ended by
a line feed and none ending in a blank, and a pixel is on exactly when its line is longer than
the pixels to its left and has a full block behind them. There are 2048 pixel values, and each
says in its place whether the pixel is on. Coordinates count modulo the width and the height.
So screens with the same text, or with the same pixel values for two distinct values, have the
same pixels.

Proof: what is trimmed from a row are blanks at its end, so a block keeps its place and stands
only where it was drawn. Lines hold no line feed, so the text is taken apart at its line feeds. -/
theorem outputs_lossless :
    (∀ screen : Screen,
      (∃ lines : List (List Char), lines.length = 32 ∧
        screen.text.toList = lines.flatMap (· ++ ['\n']) ∧
        (∀ line ∈ lines, '\n' ∉ line ∧ line.getLast? ≠ some ' ') ∧
        ∀ x < 64, ∀ y < 32, screen.get x y = true ↔
          ∃ shown, lines[y]? = some shown ∧ x < shown.length ∧ shown[x]? = some '█') ∧
      (∀ on off, (screen.toPixels on off).length = 2048 ∧
        ∀ x < 64, ∀ y < 32,
          (screen.toPixels on off)[y * 64 + x]? = some (if screen.get x y then on else off)) ∧
      ∀ x y, screen.get x y = screen.get (x % 64) (y % 32)) ∧
    ∀ first second : Screen,
      (first.text = second.text → first.pixels = second.pixels) ∧
      ∀ on off, on ≠ off → first.toPixels on off = second.toPixels on off →
        first.pixels = second.pixels := by
  refine ⟨?_, fun first second => ⟨text_inj, fun on off => toPixels_inj on off⟩⟩
  intro screen
  refine ⟨⟨screen.lines, ?_, screen.text_toList, ?_, ?_⟩, ?_, screen.get_mod⟩
  · rw [lines, List.length_map, List.length_range]
  · intro line member
    obtain ⟨y, -, rfl⟩ := List.mem_map.mp member
    exact ⟨screen.newline_notMem_line y, screen.getLast?_line y⟩
  · intro x column y inside
    rw [← screen.getElem?_line_iff y column, screen.getElem?_lines inside]
    constructor
    · intro block
      obtain ⟨longer, -⟩ := List.getElem?_eq_some_iff.mp block
      exact ⟨_, rfl, longer, block⟩
    · rintro ⟨shown, found, -, block⟩
      obtain rfl : screen.line y = shown := Option.some.inj found
      exact block
  · intro on off
    refine ⟨screen.length_toPixels on off, ?_⟩
    intro x column y inside
    exact screen.getElem?_toPixels on off column inside

/-- Touched cells do not show: a cleared screen reads as a blank one, and a screen whose touched
cells are forgotten has the same values. The last pixel alone makes another text, although
blanks at the end of a line are not written. -/
theorem last_pixel_written :
    let lit := blank.toggle (cell 63 31)
    (lit.clear.text = blank.text ∧ lit.clear.pixels = blank.pixels) ∧
    ((7 : UInt32) ≠ 9 ∧ lit.clearDirty.toPixels 7 9 = lit.toPixels 7 9 ∧
      lit.clearDirty.pixels = lit.pixels) ∧
    lit.text ≠ blank.text := by
  intro lit
  obtain ⟨-, decides⟩ := outputs_lossless
  obtain ⟨cleared, -⟩ := decides lit.clear blank
  obtain ⟨-, forgotten⟩ := decides lit.clearDirty lit
  obtain ⟨written, -⟩ := decides lit blank
  have distinct : (7 : UInt32) ≠ 9 := by decide
  have values (screen : Screen) : screen.clearDirty.toPixels 7 9 = screen.toPixels 7 9 := rfl
  refine ⟨⟨rfl, cleared rfl⟩, ⟨distinct, values lit, forgotten 7 9 distinct (values lit)⟩, ?_⟩
  intro same
  exact absurd (congrArg (·.get (cell 63 31)) (written same)) (by decide +kernel)

end Screen

end Chip8
