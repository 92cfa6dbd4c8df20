import Brainfuck.Context.Width
import Brainfuck.Lines
import Brainfuck.Machine.JumpTable
import Brainfuck.Machine.Reach
import Brainfuck.Main
import Brainfuck.Session
import Brainfuck.Structured
import Brainfuck.Proofs.Nesting
import Brainfuck.Proofs.Scan
import Brainfuck.Proofs.LoopStack
import Brainfuck.Proofs.Lockstep
import Brainfuck.Proofs.JumpTable
import Brainfuck.Proofs.TableMachine
import Brainfuck.Proofs.RunEnd
import Brainfuck.Proofs.BracketOutcome
import Brainfuck.Proofs.FaultFree
import Brainfuck.Proofs.Adequacy
import Brainfuck.Proofs.Agreement
import Brainfuck.Proofs.Relocation
import Brainfuck.Proofs.Fragment
import Brainfuck.Proofs.Commentary
import Brainfuck.Proofs.TapeBounds
import Brainfuck.Proofs.SessionTape
import Brainfuck.Proofs.MinifiedFiles
import Brainfuck.Proofs.StandardRun
import Brainfuck.Proofs.EntryPoints
import Brainfuck.Proofs.Trace
import Brainfuck.Proofs.FailedRun
import Brainfuck.Proofs.TapeExtension
import Brainfuck.Proofs.InputRelation
import Brainfuck.Proofs.LineInput
import Brainfuck.Proofs.ConsumedInput
import Brainfuck.Proofs.Transcript
import Brainfuck.Proofs.CallOrder
import Brainfuck.Proofs.SessionReuse
import Brainfuck.Proofs.InputAccount
import Brainfuck.Proofs.MinifyFrame
import Brainfuck.Proofs.BracketCell
import Brainfuck.Proofs.Decimal
import Brainfuck.Proofs.PointerHint
import Brainfuck.Proofs.MissingFile
import Brainfuck.Proofs.StraightLine
import Brainfuck.Proofs.CountingLoop
import Brainfuck.Proofs.StraightRun
import Brainfuck.Proofs.NestedProduct
import Brainfuck.Proofs.SideCalls
import Brainfuck.Proofs.Echo
import Brainfuck.Proofs.Segment
import Brainfuck.Proofs.MatchingBracket
import Brainfuck.Proofs.Encodings
import Brainfuck.Proofs.ContextLines
import Brainfuck.Proofs.DumpLines
import Brainfuck.Proofs.MemoryDump
import Brainfuck.Proofs.TapeWindow
