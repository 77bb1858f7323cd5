import GateGame.Circuit.Drawing
import GateGame.Circuit.Draft
import GateGame.Game.Play
import GateGame.Histogram.Json
import GateGame.Random.Replay
import GateGame.Register.Text
import GateGame.Score.Json
import GateGame.Proofs.Circuit.Fits
import GateGame.Proofs.Script.Grammar
import GateGame.Proofs.Seating.Wire
import GateGame.Proofs.Script.Circuit
import GateGame.Proofs.Register.Action
import GateGame.Proofs.Register.Reseating
import GateGame.Proofs.Amplitude.Marks
import GateGame.Proofs.Double.Normal
import GateGame.Proofs.Double.Units
import GateGame.Proofs.Register.Classical
import GateGame.Proofs.Register.Sampling
import GateGame.Proofs.Score.Outcome
import GateGame.Proofs.Simulator.Certain
import GateGame.Proofs.Game.Classical
import GateGame.Proofs.Histogram.Tally
import GateGame.Proofs.Histogram.Merge
import GateGame.Proofs.Score.Seated
import GateGame.Proofs.Game.Execution
import GateGame.Proofs.Circuit.Built
import GateGame.Proofs.Amplitude.Exact
import GateGame.Proofs.Register.Norm
import GateGame.Proofs.Simulator.Readout
import GateGame.Proofs.Noise.Validate
import GateGame.Proofs.Simulator.Shots
import GateGame.Proofs.Simulator.Width
import GateGame.Proofs.Script.Spelling
import GateGame.Proofs.Seating.Renaming
import GateGame.Proofs.Script.Renaming
import GateGame.Proofs.Game.Clones
import GateGame.Proofs.Amplitude.Complex
import GateGame.Proofs.Register.Passages
import GateGame.Proofs.Game.Runs
import GateGame.Proofs.Simulator.Possible
import GateGame.Proofs.Game.Exact
import GateGame.Proofs.Game.Tied
import GateGame.Proofs.Game.Untouched
import GateGame.Proofs.Device.Requests
import GateGame.Proofs.Device.Calls
import GateGame.Proofs.Game.Devices
import GateGame.Proofs.Game.Turns
import GateGame.Proofs.Double.Zeros
import GateGame.Proofs.Noise.Zero
import GateGame.Proofs.Game.ZeroNoise
import GateGame.Proofs.Circuit.Edits
import GateGame.Proofs.Register.Operator
import GateGame.Proofs.Register.Evolution
import GateGame.Proofs.Register.Draws
import GateGame.Proofs.Simulator.Trajectory
import GateGame.Proofs.Random.Uniforms
import GateGame.Proofs.Simulator.Additivity
import GateGame.Proofs.Score.Saturation
import GateGame.Proofs.Simulator.Reports
import GateGame.Proofs.Simulator.ReadoutOnly
import GateGame.Proofs.Double.Order
import GateGame.Proofs.Noise.Averages
import GateGame.Proofs.Game.NoiseFaults
import GateGame.Script.Reader
import GateGame.Proofs.Script.Places
import GateGame.Proofs.Script.Reader
import GateGame.Proofs.Script.FirstFault
import GateGame.Proofs.Script.Concatenation
import GateGame.Proofs.Script.Written
import GateGame.Proofs.Script.PlayerCount
import GateGame.Proofs.Script.Respelling
import GateGame.Proofs.Seating.Number
import GateGame.Proofs.Seating.Drawn
import GateGame.Proofs.Json.Spelling
import GateGame.Proofs.Json.Lexing
import GateGame.Proofs.Json.Counts
import GateGame.Proofs.Text.ByteOrder
import GateGame.Proofs.Histogram.Json
import GateGame.Proofs.Seating.Bijection
import GateGame.Proofs.Circuit.Additions
import GateGame.Proofs.Circuit.Columns
import GateGame.Proofs.Circuit.Drawing
import GateGame.Proofs.Histogram.Listed
import GateGame.Proofs.Random.Below
import GateGame.Proofs.Seating.Choices
