import FormulaPad.Main
import FormulaPad.Proofs.Amounts
import FormulaPad.Proofs.Arithmetic.Sound
import FormulaPad.Proofs.Chips
import FormulaPad.Proofs.Editor.Sides
import FormulaPad.Proofs.Store.History
import FormulaPad.Proofs.Substitution
import FormulaPad.Widget.Event
import FormulaPad.Proofs.Missing
import FormulaPad.Proofs.Foreign
import FormulaPad.Proofs.Runs
import FormulaPad.Proofs.Editor.Dropdowns
import FormulaPad.Proofs.Widget.Highlight
import FormulaPad.Proofs.Suggestion.Freshness
import FormulaPad.Proofs.Widget.Interleaving
import FormulaPad.Proofs.Widget.Fetches
import FormulaPad.Proofs.Widget.Revision
import FormulaPad.Proofs.Suggestion.Picked
import FormulaPad.Proofs.CommandLine.Result
import FormulaPad.Proofs.Widget.Pointing
import FormulaPad.Proofs.Suggestion.Delivered
import FormulaPad.Proofs.Arithmetic.Faults
import FormulaPad.Proofs.Agreement
import FormulaPad.Proofs.Arithmetic.Beside
import FormulaPad.Proofs.Spacing
import FormulaPad.Proofs.Tokens
import FormulaPad.Proofs.Editor.Placing
import FormulaPad.Proofs.Editor.Clearing
import FormulaPad.Proofs.Editor.Mirror
import FormulaPad.Proofs.Widget.RowHighlight
import FormulaPad.Proofs.Widget.Extent
import FormulaPad.Proofs.Editor.Filling
import FormulaPad.Proofs.Editor.LastSegment
import FormulaPad.Proofs.Editor.Cycling
import FormulaPad.Proofs.Editor.Reselecting
import FormulaPad.Proofs.Dependence
import FormulaPad.Proofs.Widget.Caret
import FormulaPad.Proofs.Terminal.Spots
import FormulaPad.Proofs.Widget.InputCells
import FormulaPad.Proofs.Editor.Typing
import FormulaPad.Proofs.Suggestion.Columns
import FormulaPad.Proofs.Durations
import FormulaPad.Proofs.CommandLine.Settings
import FormulaPad.Proofs.Scan
