import Genesis.FlatMemory
import Genesis.Main
import Genesis.Proofs.Bus.Confinement
import Genesis.Proofs.Bus.Faults
import Genesis.Proofs.Bus.InputPins
import Genesis.Proofs.Bus.UnrequestedLanes
import Genesis.Proofs.CommandLine.Reproduction
import Genesis.Proofs.Cpu.Branch
import Genesis.Proofs.Cpu.Nesting
import Genesis.Proofs.Cpu.Standstill
import Genesis.Proofs.Frame
import Genesis.Proofs.FrameRows
import Genesis.Proofs.Guarded.Machine
import Genesis.Proofs.Log.Specification
import Genesis.Proofs.Log.WithinLevels
import Genesis.Proofs.Machine.AddressMap
import Genesis.Proofs.Machine.Budget
import Genesis.Proofs.Machine.FrameLines
import Genesis.Proofs.Machine.InterruptPriority
import Genesis.Proofs.Machine.Reset
import Genesis.Proofs.Machine.SteppedFrame
import Genesis.Proofs.Machine.VideoView
import Genesis.Proofs.PartialConfiguration
import Genesis.Proofs.Vdp.ControlWords
import Genesis.Proofs.Vdp.Footprint
import Genesis.Proofs.Vdp.Masks
import Genesis.Proofs.Vdp.RasterStatus
import Genesis.Scripted
