import CanvasScript.Proofs.Storage.Content
import CanvasScript.Main
import CanvasScript.Run.Session
import CanvasScript.Script.Writing
import CanvasScript.Proofs.Script.Parts
import CanvasScript.Proofs.Script.Positions
import CanvasScript.Proofs.Script.Brackets
import CanvasScript.Proofs.Script.Replay
import CanvasScript.Proofs.Script.RoundTrip
import CanvasScript.Proofs.Script.Partition
import CanvasScript.Proofs.Command.Registry
import CanvasScript.Proofs.Command.Scopes
import CanvasScript.Proofs.Run.Eval
import CanvasScript.Proofs.Standard.Calls
import CanvasScript.Proofs.Standard.Nesting
import CanvasScript.Proofs.Standard.Faults
import CanvasScript.Proofs.Command.Composition
import CanvasScript.Proofs.Run.Visibility
import CanvasScript.Proofs.Canvas.WellFormed
import CanvasScript.Proofs.Standard.Moments
import CanvasScript.Proofs.Standard.Agreement
import CanvasScript.Proofs.Standard.Variables
import CanvasScript.Proofs.Run.Sharing
import CanvasScript.Proofs.Standard.Stores
import CanvasScript.Proofs.Canvas.Log
import CanvasScript.Proofs.Standard.Blame
import CanvasScript.Proofs.Run.Rendering
import CanvasScript.Proofs.CommandLine.Rendering
import CanvasScript.Proofs.Storage.FileSystem
import CanvasScript.Proofs.Command.Readings
import CanvasScript.Proofs.Command.Sound
import CanvasScript.Proofs.Command.Blanks
import CanvasScript.Proofs.Command.Promises
import CanvasScript.Proofs.Command.Named
import CanvasScript.Proofs.Standard.Descriptions
import CanvasScript.Proofs.Standard.Limits
import CanvasScript.Proofs.Standard.Outlines
import CanvasScript.Proofs.Command.Loading
import CanvasScript.Proofs.Script.Names
import CanvasScript.Proofs.Run.Calling
import CanvasScript.Proofs.Run.Deferral
import CanvasScript.Proofs.Script.Locations
import CanvasScript.Proofs.Script.Cursor
import CanvasScript.Proofs.Script.Requests
import CanvasScript.Proofs.Script.Locating
import CanvasScript.Proofs.Picture.Sources
import CanvasScript.Proofs.Picture.Painting
import CanvasScript.Proofs.Colour
import CanvasScript.Proofs.CommandLine.Scripts
import CanvasScript.Proofs.Standard.Summaries
