import Keychart.Files.Tree
import Keychart.Main
import Keychart.Source.Reload
import Keychart.Viewer.Stage
import Keychart.Proofs.Search.Table
import Keychart.Proofs.Search.Matching
import Keychart.Proofs.Search.Optimality
import Keychart.Proofs.Search.Ranking
import Keychart.Proofs.Markup.Stored
import Keychart.Proofs.Markup.LookAround
import Keychart.Proofs.Markup.WrittenLine
import Keychart.Proofs.Markup.RoundTrip
import Keychart.Proofs.Markup.Surroundings
import Keychart.Proofs.Source.Joined
import Keychart.Proofs.Source.Replaced
import Keychart.Proofs.Text.Truncated
import Keychart.Proofs.Viewer.InStep
import Keychart.Proofs.Viewer.WholeFrame
import Keychart.Proofs.Viewer.CutPaste
import Keychart.Proofs.Markup.Finished
import Keychart.Proofs.Markup.Margins
import Keychart.Proofs.Text.Encoded
import Keychart.Proofs.Settings.Remainder
import Keychart.Proofs.Settings.Limits
import Keychart.Proofs.Settings.Broken
import Keychart.Proofs.Theme.Unseen
import Keychart.Proofs.Number.Rounded
import Keychart.Proofs.Search.Points
import Keychart.Proofs.Search.WholeFields
import Keychart.Proofs.Search.Narrowing
import Keychart.Proofs.Viewer.Restarts
import Keychart.Proofs.Viewer.NextFrame
import Keychart.Proofs.Viewer.Editing
import Keychart.Proofs.Viewer.PromptLine
import Keychart.Proofs.Viewer.TypedPaste
import Keychart.Proofs.Key.Items
import Keychart.Proofs.Settings.HexColor
import Keychart.Proofs.Markup.Descriptions
import Keychart.Proofs.Viewer.Highlights
import Keychart.Proofs.Markup.Rewritten
import Keychart.Proofs.Markup.Literals
import Keychart.Proofs.Text.LongestFront
import Keychart.Proofs.Key.NormalNames
import Keychart.Proofs.Viewer.FrameRows
import Keychart.Proofs.Key.PlainCharacters
import Keychart.Proofs.Key.CutReads
import Keychart.Proofs.Text.Remembered
import Keychart.Proofs.Viewer.GroupedRows
import Keychart.Proofs.Key.EscapePrefix
import Keychart.Proofs.Search.Recurrence
