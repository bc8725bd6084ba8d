import Chip8.Proofs.Opcodes
import Chip8.Proofs.Sprites

/-!
# Drawing from memory

`DXYN` reads its sprite from memory, around the end if need be, and has at most fifteen rows.
So short a sprite hits no pixel twice: the point at a row and a column is the only one that
falls on its pixel, and a pixel that goes from on to off on the way is off in the end. The
flag is set last, so the flag register may give both coordinates.
-/

namespace Chip8

namespace Screen

/-- Something is said of some cell when it is said of the cell of some pixel. -/
theorem exists_cell_iff {holds : Fin 2048 → Prop} :
    (∃ target, holds target) ↔ ∃ px < 64, ∃ py < 32, holds (cell px py) := by
  constructor
  · rintro ⟨target, held⟩
    have bound : target.val < 2048 := target.isLt
    have back : cell (target.val % 64) (target.val / 64) = target := cell_place target
    exact ⟨target.val % 64, by omega, target.val / 64, by omega, back.symm ▸ held⟩
  · rintro ⟨px, -, py, -, held⟩
    exact ⟨cell px py, held⟩

/-- A pixel is hit when some lit point of the sprite falls on it. -/
theorem hits_pos_iff (x y : Nat) (rows : List UInt8) (px py : Nat) :
    0 < hits x y rows px py ↔
      ∃ row < rows.length, ∃ column < 8,
        (rows.getD row 0).toNat.testBit (7 - column) = true ∧
          (x + column) % 64 = px ∧ (y + row) % 32 = py := by
  rw [hits, Finset.card_pos]
  constructor
  · rintro ⟨⟨row, column⟩, member⟩
    simp only [Finset.mem_filter, Finset.mem_product, Finset.mem_range] at member
    obtain ⟨⟨below, left⟩, lit, falls⟩ := member
    exact ⟨row, below, column, left, lit, falls⟩
  · rintro ⟨row, below, column, left, lit, falls⟩
    refine ⟨(row, column), ?_⟩
    simp only [Finset.mem_filter, Finset.mem_product, Finset.mem_range]
    exact ⟨⟨below, left⟩, lit, falls⟩

section Short

variable {rows : List UInt8} (short : rows.length ≤ 32) (screen : Screen) (x y : UInt8)
include short

/-- A sprite no taller than the screen flips the pixels that it hits. -/
theorem get_drawSprite {px py : Nat} (column : px < 64) (line : py < 32) :
    (screen.drawSprite x y rows).screen.get px py =
      (screen.get px py ^^ decide (0 < hits x.toNat y.toNat rows px py)) := by
  have flipped := foldl_toggle_pixels (spriteCells x.toNat y.toNat rows) ⟨false, screen⟩
    (cell px py)
  have once : hits x.toNat y.toNat rows px py ≤ 1 := hits_le_one short _ _ _ _
  have odd : hits x.toNat y.toNat rows px py % 2 = 1 ↔ 0 < hits x.toNat y.toNat rows px py := by
    omega
  rw [count_spriteCells column line] at flipped
  simp only [odd] at flipped
  exact flipped

/-- Of such a sprite each point alone decides the pixel on which it falls. -/
theorem get_drawSprite_under {row column : Nat} (below : row < rows.length) (left : column < 8) :
    let px := (x.toNat + column) % 64
    let py := (y.toNat + row) % 32
    (screen.drawSprite x y rows).screen.get px py =
      (screen.get px py ^^ (rows.getD row 0).toNat.testBit (7 - column)) := by
  intro px py
  rw [get_drawSprite short screen x y (Nat.mod_lt _ (by decide)) (Nat.mod_lt _ (by decide))]
  congr 1
  rw [Bool.eq_iff_iff, decide_eq_true_iff, hits_pos_iff]
  constructor
  · rintro ⟨otherRow, otherBelow, otherColumn, otherLeft, lit, sameColumn, sameRow⟩
    obtain rfl : otherRow = row := by omega
    obtain rfl : otherColumn = column := by omega
    exact lit
  · intro lit
    exact ⟨row, below, column, left, lit, rfl, rfl⟩

/-- Such a sprite collides exactly when some pixel is turned off by it. -/
theorem collision_drawSprite_iff :
    (screen.drawSprite x y rows).collision = true ↔
      ∃ px < 64, ∃ py < 32, screen.get px py = true ∧
        (screen.drawSprite x y rows).screen.get px py = false := by
  have collided := foldl_toggle_collision (spriteCells x.toNat y.toNat rows) ⟨false, screen⟩
  simp only [Bool.false_eq_true, false_or] at collided
  refine (collided.trans exists_cell_iff).trans ?_
  refine exists_congr fun px => and_congr_right fun column => ?_
  refine exists_congr fun py => and_congr_right fun line => ?_
  have once : hits x.toNat y.toNat rows px py ≤ 1 := hits_le_one short _ _ _ _
  rw [count_spriteCells column line, get_drawSprite short screen x y column line]
  constructor
  · rintro (⟨struck, lit⟩ | twice)
    · have on : screen.get px py = true := lit
      simp [on, Nat.lt_of_lt_of_le Nat.one_pos struck]
    · omega
  · rintro ⟨on, off⟩
    have struck : 0 < hits x.toNat y.toNat rows px py := by simpa [on] using off
    exact .inl ⟨struck, on⟩

end Short

end Screen

namespace Machine

/-- A `DXYN` draws the rows that it reads from the index register on. -/
theorem executes_draw (machine : Machine) {opcode : UInt16} (bits : opcode &&& 0xF000 = 0xD000) :
    machine.Executes opcode
      (machine.draw (registerX opcode) (registerY opcode) (opcode.toNat % 16)) := by
  let row : Row := ⟨.draw, 0xF000, 0xD000, [.x, .y, .nibble]⟩
  have listed : row ∈ instructionTable := by decide
  have command : (row.read opcode).command = .draw := rfl
  have x : (row.read opcode).x = registerX opcode := Row.x_read rfl opcode
  have y : (row.read opcode).y = registerY opcode := Row.y_read rfl opcode
  have height : (row.read opcode).height = opcode.toNat % 16 := Row.height_read rfl opcode
  apply executes_of_row listed bits
  intro keyboard
  simp only [execute, command, x, y, height]

/-- Drawing is exact. Let a cycle execute `DXYN`, whichever registers X and Y name and wherever
the index register points. The pixel under each of the eight columns of each row becomes what it
was, flipped if the point has its bit set in memory; addresses wrap around memory, coordinates
around the screen, and both coordinates are those from before the instruction. Every other pixel
is as it was. The flag is one if some pixel was on and now is off, otherwise zero. No other
register has changed, nor the index register, memory or the call stack.

Proof: a sprite of at most fifteen rows has no two points on one pixel, so a pixel is flipped by
its own point or not at all, and to collide is to turn a pixel off. -/
theorem sprite_drawn_exactly (machine : Machine) (keyboard : Keyboard) (now : Readings)
    (running : machine.halted = false) (free : machine.waiting = none)
    (fetched : machine.fetch &&& 0xF000 = 0xD000) :
    let opcode := machine.fetch
    let height := opcode.toNat % 16
    let left := (machine.reg (registerX opcode)).toNat
    let top := (machine.reg (registerY opcode)).toNat
    let transition := machine.cycle keyboard now
    let after := transition.machine
    let lost := ∃ px < 64, ∃ py < 32,
      machine.screen.get px py = true ∧ after.screen.get px py = false
    (∃ instruction, Instruction.decode opcode = .ok instruction ∧
      transition.result = .ok (.executed instruction)) ∧
    (∀ row < height, ∀ column < 8,
      let px := (left + column) % 64
      let py := (top + row) % 32
      let byte := machine.memory.bytes[(machine.index.toNat + row) % 4096]
      after.screen.get px py = (machine.screen.get px py ^^ byte.toNat.testBit (7 - column))) ∧
    (∀ px < 64, ∀ py < 32,
      (∀ row < height, ∀ column < 8, ¬ (px = (left + column) % 64 ∧ py = (top + row) % 32)) →
      after.screen.get px py = machine.screen.get px py) ∧
    (lost → after.reg flag = 1) ∧ (¬ lost → after.reg flag = 0) ∧
    (∀ register ≠ flag, after.reg register = machine.reg register) ∧
    after.index = machine.index ∧ after.memory = machine.memory ∧
    after.stack = machine.stack := by
  intro opcode height left top transition after lost
  let rows := machine.memory.readMany machine.index.toNat height
  let drawing := machine.screen.drawSprite (machine.reg (registerX opcode))
    (machine.reg (registerY opcode)) rows
  obtain ⟨instruction, decoded, executed⟩ := executes_draw machine fetched
  obtain ⟨-, cycled⟩ := executed keyboard
  obtain ⟨result, core⟩ := cycled now running free rfl
  have screen : after.screen = drawing.screen := core.screen
  have registers (register : Register) : after.reg register =
      (machine.draw (registerX opcode) (registerY opcode) height).reg register :=
    congrArg (·.get register) core.registers
  have length : rows.length = height := by simp [rows, Memory.readMany]
  have short : rows.length ≤ 32 := by omega
  have flagged : after.reg flag = flagOf drawing.collision :=
    (registers flag).trans (reg_setReg _ _ _)
  have collides : drawing.collision = true ↔ lost := by
    simp only [lost, screen]
    exact Screen.collision_drawSprite_iff short _ _ _
  refine ⟨⟨instruction, decoded, result⟩, ?_, ?_, ?_, ?_, ?_, core.index, core.memory, core.stack⟩
  · intro row below column inside px py byte
    have read : rows.getD row 0 = byte := by simp [rows, Memory.readMany, below]; rfl
    rw [screen, ← read]
    exact Screen.get_drawSprite_under short _ _ _ (length ▸ below) inside
  · intro px inRow py inColumn missed
    have unhit : ¬ 0 < Screen.hits left top rows px py := by
      rw [Screen.hits_pos_iff]
      rintro ⟨row, below, column, inside, -, rfl, rfl⟩
      exact missed row (length ▸ below) column inside ⟨rfl, rfl⟩
    rw [screen, Screen.get_drawSprite short _ _ _ inRow inColumn, decide_eq_false unhit,
      Bool.xor_false]
  · intro dark
    rw [flagged, collides.mpr dark]
    rfl
  · intro kept
    rw [flagged, Bool.eq_false_iff.mpr (mt collides.mp kept)]
    rfl
  · intro register other
    rw [registers, draw, reg_setReg_of_ne _ _ other]
    rfl

/-- A machine at `DFF2`, with 63 in the flag register, the index register at the last byte of
memory and the last pixel of the top line on. -/
def atCorner : Machine :=
  { (boot {} 0 (Vector.replicate 8 0)).setReg flag 63 with
    memory := Memory.initial.writeMany Memory.programStart [0xDF, 0xF2]
    index := 0x1FFF
    screen := Screen.blank.toggle (Screen.cell 63 0) }

/-- The second row of the sprite is the first byte of memory, `F0`, and falls on the top line:
it turns off the last pixel there and lights the first one. The flag register gives both
coordinates and then holds the collision. -/
theorem corner_turned_off :
    (atCorner.halted = false ∧ atCorner.waiting = none ∧ atCorner.fetch &&& 0xF000 = 0xD000) ∧
      let after := (atCorner.cycle .idle (.still 0)).machine
      after.screen.get 63 0 = false ∧ after.screen.get 0 0 = true ∧ after.reg flag = 1 := by
  have running : atCorner.halted = false := rfl
  have free : atCorner.waiting = none := rfl
  have fetched : atCorner.fetch = 0xDFF2 := by decide +kernel
  have draws : atCorner.fetch &&& 0xF000 = 0xD000 := by rw [fetched]; decide
  refine ⟨⟨running, free, draws⟩, ?_⟩
  intro after
  obtain ⟨-, under, -, lost, -⟩ := sprite_drawn_exactly atCorner .idle (.still 0) running
    free draws
  rw [fetched] at under
  have corner : after.screen.get 63 0 = false :=
    (under 1 (by decide) 0 (by decide)).trans (by decide +kernel)
  have beside : after.screen.get 0 0 = true :=
    (under 1 (by decide) 1 (by decide)).trans (by decide +kernel)
  exact ⟨corner, beside, lost ⟨63, by decide, 0, by decide, by decide +kernel, corner⟩⟩

end Machine

end Chip8
