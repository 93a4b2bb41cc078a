import Exec09.Framework.Program
import Exec09.Framework.Words
import Exec09.Cpu.State
import Exec09.Cpu.Bus
import Exec09.Cpu.Alu
import Exec09.Cpu.Ops
import Exec09.Cpu.Execute
import Exec09.Cpu.Insn
import Exec09.Properties.LazyFlags
import Exec09.Properties.Observation
import Exec09.Properties.Blind
import Exec09.Properties.Frame
import Exec09.Cpu.Run
import Exec09.Properties.Interrupts
import Exec09.Properties.CcEncoding
import Exec09.Properties.Widths
import Exec09.Cpu.Flat
import Exec09.Properties.Delivery
import Exec09.Properties.Undisturbed
import Exec09.Properties.FlagFrame
import Exec09.Properties.Costs
import Exec09.Properties.Cycles
import Exec09.Properties.Memory
import Exec09.Properties.Modes
import Exec09.Machine.Bus
import Exec09.Machine.Boards
import Exec09.Machine.Eon
import Exec09.Machine.Eon2
import Exec09.Machine.Wpc
import Exec09.Properties.BusMaps
import Exec09.Properties.MmuCoherence
import Exec09.Properties.Configurations
import Exec09.Properties.Windows
import Exec09.Properties.FastRead
import Exec09.Properties.Banking
import Exec09.Properties.SmallMmuBounds
import Exec09.Properties.DeviceBounds
import Exec09.Properties.Absolute
import Exec09.Properties.Protection
import Exec09.Properties.Multiplexer
import Exec09.Properties.Precise
import Exec09.Debugger.Breakpoints
import Exec09.Properties.Breakpoints
import Exec09.Framework.RingStack
import Exec09.Properties.Stack
import Exec09.Machine.Timer
import Exec09.Properties.Oscillator
import Exec09.Framework.Bits
import Exec09.Properties.AluValues
import Exec09.Properties.Chains
import Exec09.Properties.Branches
import Exec09.Properties.Decimal
import Exec09.Properties.Indexing
import Exec09.Properties.ContextSaving
import Exec09.Properties.Rejected
import Exec09.Framework.Scan
import Exec09.Monitor.Loader
import Exec09.Properties.Images
import Exec09.Debugger.Scripts
import Exec09.Properties.Scripts
import Exec09.Properties.ActiveCount
import Exec09.Debugger.Stops
import Exec09.Properties.Stops
import Exec09.Machine.Rom
import Exec09.Properties.RomMirror
import Exec09.Properties.DiskSectors
import Exec09.Properties.Records
import Exec09.Framework.Chain
import Exec09.Debugger.Symtab
import Exec09.Properties.Symtab
import Exec09.Framework.CText
import Exec09.Debugger.Eval
import Exec09.Properties.Conditions
import Exec09.Framework.Precedence
import Exec09.Properties.Expressions
import Exec09.Properties.AsicRegisters
import Exec09.Properties.SwitchRelease
import Exec09.Machine.WpcMessages
import Exec09.Properties.Messages
import Exec09.Properties.MatrixBounds
import Exec09.Framework.Ring
import Exec09.Debugger.Trace
import Exec09.Properties.TraceDump
import Exec09.Debugger.Host
import Exec09.Properties.Threads
import Exec09.Properties.Reset
import Exec09.Monitor.Dasm
import Exec09.Properties.BranchTargets
import Exec09.Framework.Arguments
import Exec09.Main.Options
import Exec09.Properties.CommandLine
import Exec09.Properties.Disassembly
import Exec09.Properties.ProgramCounter
import Exec09.Properties.InsnLengths
import Exec09.Framework.Sealing
import Exec09.Properties.LastWriter
import Exec09.Framework.CBuffer
import Exec09.Debugger.EvalInPlace
import Exec09.Framework.RollingSum
import Exec09.Properties.EvalTermination
import Exec09.Debugger.IrqLoad
import Exec09.Properties.RollingLoad
import Exec09.Properties.Fence
import Exec09.Properties.AddressRange
import Exec09.Framework.Simulation
import Exec09.Properties.Simulation
import Exec09.Properties.SameRuns
import Exec09.Properties.Transparency
import Exec09.Properties.RunInvariants
import Exec09.Properties.PlainMemory
import Exec09.Main.Loop
import Exec09.Properties.Unattended
import Exec09.Properties.MainLoop
import Exec09.Main.Machines
import Exec09.Properties.MainMachines
import Exec09.Main.Boot
import Exec09.Properties.Boot
import Exec09.Properties.Schedule
import Exec09.Properties.Mnemonics
import Exec09.Framework.CNumber
import Exec09.Monitor.MapFile
import Exec09.Properties.MapFiles
