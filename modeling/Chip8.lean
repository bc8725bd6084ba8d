import Chip8.Main
import Chip8.Settings.Writer
import Chip8.Proofs.CallStack
import Chip8.Proofs.Execution
import Chip8.Proofs.Run
import Chip8.Proofs.Cycle
import Chip8.Proofs.Redraw
import Chip8.Proofs.Calls
import Chip8.Proofs.Decoding
import Chip8.Proofs.Faults
import Chip8.Proofs.KeyWait
import Chip8.Proofs.AddressWidth
import Chip8.Proofs.Switches
import Chip8.Proofs.Waiting
import Chip8.Proofs.Bounds
import Chip8.Proofs.RandomBytes
import Chip8.Proofs.TimerClock
import Chip8.Proofs.Timekeeping
import Chip8.Proofs.Timers
import Chip8.Proofs.RunningTime
import Chip8.Proofs.ClockTimers
import Chip8.Proofs.Halting
import Chip8.Proofs.InstructionTimers
import Chip8.Proofs.Stores
import Chip8.Proofs.HeldKeys
import Chip8.Proofs.Encoding
import Chip8.Proofs.Numeral
import Chip8.Proofs.Lexeme
import Chip8.Proofs.SettingsText
import Chip8.Proofs.Sprites
import Chip8.Proofs.Log
import Chip8.Proofs.CommandLine
import Chip8.Proofs.Opcodes
import Chip8.Proofs.Drawing
import Chip8.Proofs.Arithmetic
import Chip8.Proofs.ProgramCounter
import Chip8.Proofs.Transfers
import Chip8.Proofs.Footprint
import Chip8.Proofs.Disassembly
import Chip8.Proofs.ScreenOutput
import Chip8.Proofs.KeySet
import Chip8.Proofs.Duration
