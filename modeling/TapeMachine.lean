import TapeMachine.Machine.Call
import TapeMachine.Main
import TapeMachine.Proofs.Drive
import TapeMachine.Proofs.Budgets
import TapeMachine.Proofs.EndMarks
import TapeMachine.Proofs.WiderTape
import TapeMachine.Proofs.TapeLength
import TapeMachine.Proofs.Structured.Block
import TapeMachine.Proofs.Structured.Scans
import TapeMachine.Proofs.Structured.Steps
import TapeMachine.Proofs.Structured.Enactment
import TapeMachine.Proofs.Structured.Refinement
import TapeMachine.Proofs.Structured.Sites
import TapeMachine.Proofs.Structured.ControlFlow
import TapeMachine.Proofs.Structured.Relocation
import TapeMachine.Proofs.Structured.LevelLoops
import TapeMachine.Proofs.Conservation
import TapeMachine.Proofs.DeviceFailures
import TapeMachine.Proofs.Retries
import TapeMachine.Proofs.DeviceExchange
import TapeMachine.Proofs.Interruptions
import TapeMachine.Proofs.TimeSlices
import TapeMachine.Proofs.EofPolicies
import TapeMachine.Proofs.Structured.Excerpts
import TapeMachine.Proofs.SampleRuns
import TapeMachine.Proofs.Invocations
import TapeMachine.Proofs.LostOutput
import TapeMachine.Proofs.Observation
import TapeMachine.Proofs.Resets
import TapeMachine.Proofs.Guarded.Calls
import TapeMachine.Proofs.BracketDepths
import TapeMachine.Proofs.BracketPairs
import TapeMachine.Proofs.SourceRuns
import TapeMachine.Proofs.LoadWindows
import TapeMachine.Proofs.Spelling
import TapeMachine.Proofs.TokenQueues
import TapeMachine.Proofs.StepAtomicity
import TapeMachine.Proofs.RunFlushes
import TapeMachine.Proofs.DecimalWords
import TapeMachine.Proofs.DecimalNumbers
import TapeMachine.Proofs.TokenListing
import TapeMachine.Proofs.FoldedRows
import TapeMachine.Proofs.PictureReading
import TapeMachine.Proofs.WillingDevices
import TapeMachine.Proofs.SampleAnywhere
import TapeMachine.Proofs.DisjointLoads
import TapeMachine.Proofs.Reach
import TapeMachine.Proofs.StepLines
import TapeMachine.Proofs.Stages
import TapeMachine.Proofs.ArrivingInput
import TapeMachine.Proofs.Sessions
import TapeMachine.Proofs.TapeLayers
