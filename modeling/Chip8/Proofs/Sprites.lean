import Mathlib.Algebra.BigOperators.Group.Finset.Piecewise
import Mathlib.Algebra.BigOperators.Group.Finset.Sigma
import Chip8.Proofs.Screen

/-!
# Sprites

A sprite flips the pixels under its lit points, where both coordinates wrap around. What
becomes of a pixel is decided by counting the points that fall on it. An odd number changes
it, any at all touch its cell, and it goes from on to off on the way exactly when it was on
and is hit, or is hit twice. A sprite of at most 32 rows hits nothing twice.

Counting does not care for order. So neither does drawing, as long as the collisions of all
sprites are reported together, and what is drawn a second time is erased.
-/

namespace Chip8

namespace Screen

section Toggling

variable (targets : List (Fin 2048)) (drawing : Drawing) (target : Fin 2048)

/-- A pixel is flipped once for each time that its cell is listed. -/
theorem foldl_toggle_pixels :
    (targets.foldl Drawing.toggle drawing).screen.pixels.get target =
      (drawing.screen.pixels.get target ^^ decide (targets.count target % 2 = 1)) := by
  induction targets generalizing drawing with
  | nil => simp
  | cons first rest inductionHypothesis =>
    rw [List.foldl_cons, inductionHypothesis, Drawing.toggle, toggle_pixels, List.count_cons]
    by_cases same : target = first
    · subst same
      have flipped : decide ((rest.count target + 1) % 2 = 1) =
          !decide (rest.count target % 2 = 1) := by
        rw [Bool.eq_iff_iff]
        simp only [decide_eq_true_iff, Bool.not_eq_true', decide_eq_false_iff_not]
        omega
      simp only [if_true, beq_self_eq_true, flipped, Bool.not_xor, Bool.xor_not]
    · simp [same, Ne.symm same]

/-- A cell is touched when it is listed. -/
theorem foldl_toggle_dirty :
    (targets.foldl Drawing.toggle drawing).screen.dirty.get target =
      (drawing.screen.dirty.get target || decide (0 < targets.count target)) := by
  induction targets generalizing drawing with
  | nil => simp
  | cons first rest inductionHypothesis =>
    rw [List.foldl_cons, inductionHypothesis, Drawing.toggle, toggle_dirty, List.count_cons]
    by_cases same : target = first
    · simp [same]
    · simp [same, Ne.symm same]

/-- A pixel goes from on to off when it was on and is flipped, or is flipped twice. -/
theorem foldl_toggle_collision :
    (targets.foldl Drawing.toggle drawing).collision = true ↔
      drawing.collision = true ∨
        ∃ target, 1 ≤ targets.count target ∧ drawing.screen.pixels.get target = true ∨
          2 ≤ targets.count target := by
  induction targets generalizing drawing with
  | nil => simp
  | cons first rest inductionHypothesis =>
    rw [List.foldl_cons, inductionHypothesis]
    simp only [Drawing.toggle, Bool.or_eq_true, toggle_pixels, or_assoc]
    apply or_congr_right
    constructor
    · rintro (lit | ⟨other, hit⟩)
      · exact ⟨first, .inl ⟨by simp, lit⟩⟩
      · refine ⟨other, ?_⟩
        by_cases same : other = first
        · subst same
          have again : 1 ≤ rest.count other := by omega
          right
          rw [List.count_cons_self]
          omega
        · simpa [List.count_cons, same, Ne.symm same] using hit
    · rintro ⟨other, hit⟩
      by_cases same : other = first
      · subst same
        rw [List.count_cons_self] at hit
        cases lit : drawing.screen.pixels.get other with
        | true => exact .inl rfl
        | false =>
          have again : 1 ≤ rest.count other := by
            simp only [lit, Bool.false_eq_true, and_false, false_or] at hit
            omega
          exact .inr ⟨other, .inl ⟨again, by simp⟩⟩
      · refine .inr ⟨other, ?_⟩
        simpa [List.count_cons, same, Ne.symm same] using hit

/-- Cells may be toggled in any order. -/
theorem foldl_toggle_perm {targets shuffled : List (Fin 2048)} (same : shuffled.Perm targets)
    (drawing : Drawing) :
    shuffled.foldl Drawing.toggle drawing = targets.foldl Drawing.toggle drawing := by
  apply same.foldl_eq'
  intro first _ second _ before
  by_cases equal : first = second
  · rw [equal]
  · have apart : first.val ≠ second.val := fun equalValues => equal (Fin.ext equalValues)
    simp only [Drawing.toggle, toggle, get_set, if_neg equal, if_neg (Ne.symm equal)]
    rw [Bool.or_assoc, Bool.or_assoc, Bool.or_comm (before.screen.pixels.get first),
      Vector.set_comm _ _ apart, Vector.set_comm _ _ apart]

/-- Whether there were collisions before is of no concern to those that follow. -/
theorem foldl_toggle_start :
    targets.foldl Drawing.toggle drawing =
      { collision := drawing.collision ||
          (targets.foldl Drawing.toggle ⟨false, drawing.screen⟩).collision
        screen := (targets.foldl Drawing.toggle ⟨false, drawing.screen⟩).screen } := by
  induction targets generalizing drawing with
  | nil => simp
  | cons first rest inductionHypothesis =>
    rw [List.foldl_cons, List.foldl_cons, inductionHypothesis,
      inductionHypothesis (Drawing.toggle ⟨false, drawing.screen⟩ first)]
    simp only [Drawing.toggle, Bool.false_or, Bool.or_assoc]

end Toggling

section Counting

/-- The number of lit points of a sprite, each given by its row and column, that fall on a
pixel after wrapping. -/
def hits (x y : Nat) (rows : List UInt8) (px py : Nat) : Nat :=
  ((Finset.range rows.length ×ˢ Finset.range 8).filter fun point =>
    (rows.getD point.1 0).toNat.testBit (7 - point.2) ∧
      (x + point.2) % 64 = px ∧ (y + point.1) % 32 = py).card

/-- The number of lit points of a single row that fall on a pixel. -/
def rowHits (x y : Nat) (row : UInt8) (px py : Nat) : Nat :=
  ((Finset.range 8).filter fun column =>
    row.toNat.testBit (7 - column) ∧ (x + column) % 64 = px ∧ y % 32 = py).card

/-- Every row counts by itself. -/
theorem hits_eq_sum (x y : Nat) (rows : List UInt8) (px py : Nat) :
    hits x y rows px py =
      ∑ index ∈ Finset.range rows.length, rowHits x (y + index) (rows.getD index 0) px py := by
  simp only [hits, rowHits, Finset.card_filter, Finset.sum_product]

/-- The hits of a sprite are those of its first row and those of the rows below. -/
theorem hits_cons (x y : Nat) (row : UInt8) (rows : List UInt8) (px py : Nat) :
    hits x y (row :: rows) px py = rowHits x y row px py + hits x (y + 1) rows px py := by
  have lower (index : Nat) :
      rowHits x (y + (index + 1)) ((row :: rows).getD (index + 1) 0) px py =
        rowHits x (y + 1 + index) (rows.getD index 0) px py := by
    rw [List.getD_cons_succ, Nat.add_assoc, Nat.add_comm 1]
  rw [hits_eq_sum, hits_eq_sum, List.length_cons, Finset.sum_range_succ', Nat.add_comm]
  simp only [lower]
  rfl

/-- Two coordinate pairs have one cell when they agree after wrapping. -/
theorem cell_eq_iff {px py : Nat} (column : px < 64) (line : py < 32) (x y : Nat) :
    cell x y = cell px py ↔ x % 64 = px ∧ y % 32 = py := by
  simp only [cell, Fin.mk.injEq]
  omega

/-- A row toggles a cell as often as it hits the pixel. -/
theorem count_row {px py : Nat} (column : px < 64) (line : py < 32) (x y : Nat) (row : UInt8) :
    ((litColumns row).map fun shift => cell (x + shift) y).count (cell px py) =
      rowHits x y row px py := by
  rw [List.count, List.countP_map, litColumns, List.countP_filter, List.countP_eq_length_filter]
  have same : (List.range 8).filter (fun shift =>
        ((· == cell px py) ∘ fun shift => cell (x + shift) y) shift &&
          row.toNat.testBit (7 - shift)) =
      (List.range 8).filter fun shift =>
        row.toNat.testBit (7 - shift) ∧ (x + shift) % 64 = px ∧ y % 32 = py := by
    apply List.filter_congr
    intro shift _
    simp only [Function.comp_apply, Bool.beq_eq_decide_eq, cell_eq_iff column line, Bool.decide_and,
      Bool.decide_eq_true, Bool.and_comm]
  rw [same]
  rfl

/-- A sprite toggles a cell as often as it hits the pixel. -/
theorem count_spriteCells {px py : Nat} (column : px < 64) (line : py < 32) (x y : Nat)
    (rows : List UInt8) : (spriteCells x y rows).count (cell px py) = hits x y rows px py := by
  induction rows generalizing y with
  | nil => rfl
  | cons row rest inductionHypothesis =>
    rw [spriteCells, List.count_append, count_row column line, inductionHypothesis, ← hits_cons]

/-- A sprite no taller than the screen hits nothing twice: each point is told from the others
by its row and column modulo the size of the screen. -/
theorem hits_le_one {rows : List UInt8} (short : rows.length ≤ 32) (x y px py : Nat) :
    hits x y rows px py ≤ 1 := by
  rw [hits, Finset.card_le_one]
  intro first found second other
  simp only [Finset.mem_filter, Finset.mem_product, Finset.mem_range] at found other
  ext <;> omega

end Counting

/-- A sprite is drawn by counting, for every pixel, the lit points that fall on it. The pixel
changes when their number is odd and its cell is touched when there are any; the drawing
collides exactly when a pixel that was on is hit or any pixel is hit twice, and only a sprite
of more than 32 rows hits a pixel twice.

Proof: the cells that a sprite toggles hold the cell of a pixel once for each hit, row by row,
and toggling listed cells depends only on how often each is listed. -/
theorem sprite_counts_hits (screen : Screen) (x y : UInt8) (rows : List UInt8) :
    let drawing := screen.drawSprite x y rows
    let hits (px : Fin 64) (py : Fin 32) := Screen.hits x.toNat y.toNat rows px.val py.val
    (∀ px py,
      drawing.screen.get px.val py.val =
        (screen.get px.val py.val ^^ decide (hits px py % 2 = 1)) ∧
      drawing.screen.isDirty px.val py.val =
        (screen.isDirty px.val py.val || decide (0 < hits px py))) ∧
    (drawing.collision = true ↔
      ∃ px py, 1 ≤ hits px py ∧ screen.get px.val py.val = true ∨ 2 ≤ hits px py) ∧
    (rows.length ≤ 32 → ∀ px py, hits px py ≤ 1) := by
  intro drawing hits
  have counted (px : Fin 64) (py : Fin 32) :
      (spriteCells x.toNat y.toNat rows).count (cell px.val py.val) = hits px py :=
    count_spriteCells px.isLt py.isLt x.toNat y.toNat rows
  refine ⟨?_, ?_, fun short px py => hits_le_one short _ _ _ _⟩
  · intro px py
    rw [← counted]
    exact ⟨foldl_toggle_pixels _ _ _, foldl_toggle_dirty _ _ _⟩
  · have toggled := foldl_toggle_collision (spriteCells x.toNat y.toNat rows) ⟨false, screen⟩
    simp only [Bool.false_eq_true, false_or] at toggled
    refine toggled.trans ⟨?_, ?_⟩
    · rintro ⟨target, struck⟩
      have bound : target.val < 2048 := target.isLt
      let px : Fin 64 := ⟨target.val % 64, by omega⟩
      let py : Fin 32 := ⟨target.val / 64, by omega⟩
      have back : cell px.val py.val = target := cell_place target
      refine ⟨px, py, ?_⟩
      rwa [← counted, get, back]
    · rintro ⟨px, py, struck⟩
      rw [← counted] at struck
      exact ⟨cell px.val py.val, struck⟩

/-- The first and the last of 33 rows meet on one pixel. -/
example : hits 0 0 (List.replicate 33 0x80) 0 0 = 2 := by decide +kernel

end Screen

/-- A sprite and where its top left corner goes. -/
structure Sprite where
  x : UInt8
  y : UInt8
  rows : List UInt8

/-- The cells that a sprite toggles where it goes. -/
def Sprite.cells (sprite : Sprite) : List (Fin 2048) :=
  Screen.spriteCells sprite.x.toNat sprite.y.toNat sprite.rows

namespace Screen

/-- Draw sprites one after the other. A collision of any of them is a collision. -/
def drawSprites (screen : Screen) : List Sprite → Drawing
  | [] => ⟨false, screen⟩
  | sprite :: later =>
    let first := screen.drawSprite sprite.x sprite.y sprite.rows
    let rest := first.screen.drawSprites later
    ⟨first.collision || rest.collision, rest.screen⟩

/-- Drawing sprites toggles the cells of all of them. -/
theorem drawSprites_eq (screen : Screen) (sprites : List Sprite) :
    screen.drawSprites sprites =
      (sprites.flatMap Sprite.cells).foldl Drawing.toggle ⟨false, screen⟩ := by
  induction sprites generalizing screen with
  | nil => rfl
  | cons sprite later inductionHypothesis =>
    rw [drawSprites, inductionHypothesis, List.flatMap_cons, List.foldl_append]
    exact (foldl_toggle_start _ (screen.drawSprite sprite.x sprite.y sprite.rows)).symm

/-- Sprites drawn in two passes are drawn in one. -/
theorem drawSprites_append (screen : Screen) (earlier later : List Sprite) :
    screen.drawSprites (earlier ++ later) =
      let first := screen.drawSprites earlier
      let rest := first.screen.drawSprites later
      ⟨first.collision || rest.collision, rest.screen⟩ := by
  induction earlier generalizing screen with
  | nil => simp [drawSprites]
  | cons sprite others inductionHypothesis =>
    simp only [List.cons_append, drawSprites, inductionHypothesis, Bool.or_assoc]

/-- A row toggles nothing exactly when it is zero. -/
theorem litColumns_eq_nil_iff (row : UInt8) : litColumns row = [] ↔ row = 0 := by
  rw [litColumns, List.filter_eq_nil_iff]
  constructor
  · intro dark
    apply UInt8.toNat_inj.mp
    apply Nat.eq_of_testBit_eq
    intro place
    rw [UInt8.toNat_zero, Nat.zero_testBit]
    by_cases inside : place < 8
    · have unlit := dark (7 - place) (List.mem_range.mpr (by omega))
      rwa [show 7 - (7 - place) = place by omega, Bool.not_eq_true] at unlit
    · apply Nat.testBit_lt_two_pow
      calc row.toNat
        _ < 2 ^ 8 := row.toNat_lt
        _ ≤ 2 ^ place := Nat.pow_le_pow_right (by decide) (by omega)
  · rintro rfl column _
    simp

/-- A sprite toggles nothing exactly when all its rows are zero. -/
theorem spriteCells_eq_nil_iff (x y : Nat) (rows : List UInt8) :
    spriteCells x y rows = [] ↔ ∀ row ∈ rows, row = 0 := by
  induction rows generalizing y with
  | nil => simp [spriteCells]
  | cons row rest inductionHypothesis =>
    rw [spriteCells, List.append_eq_nil_iff, List.map_eq_nil_iff, litColumns_eq_nil_iff,
      inductionHypothesis, List.forall_mem_cons]

/-- Sprites may be drawn in any order, and drawing them again erases them. However the
sprites of a list are reordered, the screen with its touched cells is the same in the end and
so is whether any of them collided; and when they are all drawn a second time, in whatever
order, every pixel is what it was at first, and some sprite collided in the two passes exactly
when some row that was drawn is not zero.

Proof: drawing sprites is toggling the cells of all of them, and cells may be toggled in any
order. Over both passes every cell is toggled an even number of times, and twice at least if
it is toggled at all. -/
theorem sprites_commute_and_cancel (screen : Screen) (sprites shuffled : List Sprite)
    (reordered : shuffled.Perm sprites) :
    let once := screen.drawSprites sprites
    let twice := once.screen.drawSprites shuffled
    screen.drawSprites shuffled = once ∧
    twice.screen.pixels = screen.pixels ∧
    ((once.collision || twice.collision) = true ↔
      ∃ sprite ∈ sprites, ∃ row ∈ sprite.rows, row ≠ 0) := by
  intro once twice
  let targets := sprites.flatMap Sprite.cells
  have same : (shuffled.flatMap Sprite.cells).Perm targets := reordered.flatMap_right _
  have both : (⟨once.collision || twice.collision, twice.screen⟩ : Drawing) =
      (targets ++ shuffled.flatMap Sprite.cells).foldl Drawing.toggle ⟨false, screen⟩ := by
    rw [← List.flatMap_append, ← drawSprites_eq, drawSprites_append]
  have doubled (target : Fin 2048) :
      (targets ++ shuffled.flatMap Sprite.cells).count target = 2 * targets.count target := by
    rw [List.count_append, same.count_eq]
    omega
  refine ⟨?_, ?_, ?_⟩
  · rw [drawSprites_eq, foldl_toggle_perm same, ← drawSprites_eq]
  · apply Vector.ext
    intro index bound
    have toggled := foldl_toggle_pixels (targets ++ shuffled.flatMap Sprite.cells)
      ⟨false, screen⟩ ⟨index, bound⟩
    have even : 2 * targets.count ⟨index, bound⟩ % 2 ≠ 1 := by omega
    rw [← both, doubled, decide_eq_false even, Bool.xor_false] at toggled
    exact toggled
  · have toggled := foldl_toggle_collision (targets ++ shuffled.flatMap Sprite.cells)
      ⟨false, screen⟩
    simp only [← both, doubled, Bool.false_eq_true, false_or] at toggled
    have drawn : targets ≠ [] ↔ ∃ sprite ∈ sprites, ∃ row ∈ sprite.rows, row ≠ 0 := by
      simp only [targets, Ne, List.flatMap_eq_nil_iff, Sprite.cells, spriteCells_eq_nil_iff]
      push Not
      rfl
    rw [toggled, ← drawn]
    constructor
    · rintro ⟨target, struck⟩
      have listed : target ∈ targets := List.count_pos_iff.mp (by omega)
      exact List.ne_nil_of_mem listed
    · intro some
      obtain ⟨target, listed⟩ := List.exists_mem_of_ne_nil targets some
      have once : 1 ≤ targets.count target := List.one_le_count_iff.mpr listed
      exact ⟨target, .inr (by omega)⟩

/-- Two sprites over the lower right corner, the second so tall that it hits a pixel twice. -/
def cornerSprites : List Sprite :=
  [⟨62, 30, [0xF0, 0x90]⟩, ⟨63, 31, List.replicate 33 0x80⟩]

/-- Drawn in either order they leave the same screen, and drawn again nothing. -/
theorem corner_sprites_cancel :
    let once := blank.drawSprites cornerSprites
    let twice := once.screen.drawSprites cornerSprites.reverse
    cornerSprites.reverse.Perm cornerSprites ∧
      blank.drawSprites cornerSprites.reverse = once ∧
      twice.screen.pixels = blank.pixels ∧ (once.collision || twice.collision) = true := by
  intro once twice
  have reordered : cornerSprites.reverse.Perm cornerSprites := List.reverse_perm _
  obtain ⟨same, back, collides⟩ :=
    sprites_commute_and_cancel blank cornerSprites cornerSprites.reverse reordered
  have drawn : ∃ sprite ∈ cornerSprites, ∃ row ∈ sprite.rows, row ≠ 0 := by decide
  exact ⟨reordered, same, back, collides.mpr drawn⟩

/-- Which of two sprites collides does depend on the order. -/
example :
    (blank.drawSprite 0 0 [0xFF]).collision = false ∧
      ((blank.drawSprite 0 0 [0x80]).screen.drawSprite 0 0 [0xFF]).collision = true := by
  decide +kernel

end Screen

end Chip8
