import ChipEight.Main
import ChipEight.Proofs.Text.Fields
import ChipEight.Proofs.Text.Identifier
import ChipEight.Proofs.Text.Numeral
import ChipEight.Proofs.Except
import ChipEight.Proofs.Alike
import ChipEight.Proofs.CommandLine.AssembledFile
import ChipEight.Proofs.Directory
import ChipEight.Proofs.Text.LetterCase
import ChipEight.Proofs.Assembly.Remarks
import ChipEight.Proofs.Assembly.Printing
import ChipEight.Proofs.Assembly.LetterCase
import ChipEight.Proofs.Instruction.Encoding
import ChipEight.Proofs.Assembly.Operand
import ChipEight.Proofs.Assembly.Line
import ChipEight.Proofs.Assembly.Reassembly
import ChipEight.Proofs.Assembly.Meaning
import ChipEight.Proofs.Assembly.Layout
import ChipEight.Proofs.Assembly.Emission
import ChipEight.Proofs.Assembly.Encoding
import ChipEight.Proofs.Assembly.Overwriting
import ChipEight.Proofs.Assembly.Substitution
import ChipEight.Proofs.Assembly.LabelAddresses
import ChipEight.Proofs.Assembly.Concatenation
import ChipEight.Proofs.Storage
import ChipEight.Proofs.Framebuffer.Cell
import ChipEight.Proofs.Framebuffer.Blit
import ChipEight.Proofs.Framebuffer.Order
import ChipEight.Proofs.Framebuffer.Torus
import ChipEight.Proofs.Machine.Bounds
import ChipEight.Proofs.Machine.InPlace
import ChipEight.Proofs.Machine.Calls
import ChipEight.Proofs.Machine.Edges
import ChipEight.Proofs.Machine.RunStates
import ChipEight.Proofs.Machine.RandomLoads
import ChipEight.Proofs.Machine.FlagOwnership
import ChipEight.Proofs.Machine.Reset
import ChipEight.Proofs.Monitor.Reload
import ChipEight.Proofs.Assembly.Failures
import ChipEight.Proofs.Assembly.ProgramListing
import ChipEight.Proofs.Machine.Stepping
import ChipEight.Proofs.Machine.Trace
import ChipEight.Proofs.Machine.Drawing
import ChipEight.Proofs.Machine.Splitting
import ChipEight.Proofs.Monitor.Drivers
import ChipEight.Proofs.Monitor.Breakpoints
import ChipEight.Proofs.Monitor.Stops
import ChipEight.Proofs.Monitor.Command
import ChipEight.Proofs.Monitor.InPlace
import ChipEight.Proofs.Monitor.Inspection
import ChipEight.Proofs.Monitor.EndOfProgram
import ChipEight.Proofs.Text.Hexadecimal
import ChipEight.Proofs.Monitor.Addresses
import ChipEight.Proofs.Machine.Loading
import ChipEight.Proofs.Framebuffer.Picture
import ChipEight.Proofs.HexDump
