import Flowchart.Code.Compile
import Flowchart.Collatz.CommandLine
import Flowchart.Graph.OfMachine
import Flowchart.Inspect
import Flowchart.Instance.Replay
import Flowchart.Instance.Run
import Flowchart.Log.Document
import Flowchart.Main
import Flowchart.Pool
import Flowchart.Proofs.Binding
import Flowchart.Proofs.Compile
import Flowchart.Registry
import Flowchart.Shell.Session
import Flowchart.Proofs.Build
import Flowchart.Proofs.Operation
import Flowchart.Proofs.Walk
import Flowchart.Proofs.Replay
import Flowchart.Proofs.Reading
import Flowchart.Proofs.Valid
import Flowchart.Proofs.Interpreter
import Flowchart.Proofs.Retrace
import Flowchart.Proofs.Flow
import Flowchart.Proofs.Names
import Flowchart.Proofs.Rules
import Flowchart.Proofs.Termination
import Flowchart.Proofs.Integrity
import Flowchart.Proofs.Stopping
import Flowchart.Proofs.Cap
import Flowchart.Proofs.Faults
import Flowchart.Proofs.Document
import Flowchart.Proofs.Forced
import Flowchart.Proofs.Observation
import Flowchart.Proofs.Order
import Flowchart.Proofs.Policy
import Flowchart.Proofs.Pool
import Flowchart.Proofs.Session
import Flowchart.Proofs.Collatz.Search
import Flowchart.Proofs.Collatz.Inputs
import Flowchart.Proofs.Graph.Text
import Flowchart.Proofs.Graph.Drawing
import Flowchart.Proofs.Graph.OfMachine
import Flowchart.Proofs.Grammar
import Flowchart.Proofs.Lookup
import Flowchart.Proofs.Addressing
import Flowchart.Proofs.FirstStop
import Flowchart.Proofs.Counting
import Flowchart.Proofs.Route
import Flowchart.Proofs.Numeral
import Flowchart.Proofs.Command
import Flowchart.Proofs.Collatz.Stack
