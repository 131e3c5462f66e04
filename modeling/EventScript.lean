import EventScript.Main
import EventScript.Rehearsal.Run
import EventScript.Store.Sheet
import EventScript.Proofs.Command.Line
import EventScript.Proofs.Ensemble.Isolation
import EventScript.Proofs.Ensemble.Sum
import EventScript.Proofs.Fault.Step
import EventScript.Proofs.Forward.Run
import EventScript.Proofs.Schedule.Deletion
import EventScript.Proofs.Program.Run
import EventScript.Proofs.Prompt.Choice
import EventScript.Proofs.Prompt.Slip
import EventScript.Proofs.Prompt.Talk
import EventScript.Proofs.Script.Nesting
import EventScript.Proofs.Store.Failure
import EventScript.Proofs.Script.Brackets
import EventScript.Proofs.Command.Comparison
import EventScript.Proofs.Script.Matching
import EventScript.Proofs.Text.Lines
import EventScript.Proofs.Script.Layout
import EventScript.Proofs.Schedule.Sleep
import EventScript.Proofs.Schedule.Charge
import EventScript.Proofs.Script.Labels
import EventScript.Proofs.Store.Sheet
import EventScript.Proofs.Schedule.Owned
import EventScript.Proofs.Schedule.Ending
import EventScript.Proofs.Settings.Merge
import EventScript.Proofs.Fade.Waiting
import EventScript.Proofs.Renewal.NewGame
import EventScript.Proofs.Text.Pieces
import EventScript.Proofs.Text.Talk
import EventScript.Proofs.Store.Integer
import EventScript.Proofs.Services.World
import EventScript.Proofs.Prompt.History
