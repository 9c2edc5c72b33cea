import GhostEdit.Main
import GhostEdit.Session.Rehearsal
import GhostEdit.Provider.Connection
import GhostEdit.Proofs.Suggestion.Placement
import GhostEdit.Proofs.Buffer.Rewriting
import GhostEdit.Proofs.Session.Pending
import GhostEdit.Proofs.Overlay.Marks
import GhostEdit.Proofs.Session.Moves
import GhostEdit.Proofs.Session.AnyOrder
import GhostEdit.Proofs.Buffer.Tracking
import GhostEdit.Proofs.Session.Alternatives
import GhostEdit.Proofs.Alignment
import GhostEdit.Proofs.Overlay.Preview
import GhostEdit.Proofs.Session.Changes
import GhostEdit.Proofs.Session.Events
import GhostEdit.Proofs.Session.Lifecycle
import GhostEdit.Proofs.Session.Newest
import GhostEdit.Proofs.Session.Dismissal
import GhostEdit.Proofs.Session.Round
import GhostEdit.Proofs.Command.AcceptAll
import GhostEdit.Proofs.Cache.Accounting
import GhostEdit.Proofs.Cache.Recency
import GhostEdit.Proofs.Session.Shown
import GhostEdit.Proofs.Clock
import GhostEdit.Proofs.Text.Utf8
import GhostEdit.Proofs.Files.LineEnds
import GhostEdit.Proofs.Session.Stored
import GhostEdit.Proofs.Session.Settled
import GhostEdit.Proofs.Session.CacheHit
import GhostEdit.Proofs.Session.Provenance
import GhostEdit.Proofs.Files.Writing
import GhostEdit.Proofs.Command.WriteBack
import GhostEdit.Proofs.Json.Strings
import GhostEdit.Proofs.Binary64.Rounding
import GhostEdit.Proofs.Binary64.Shortest
import GhostEdit.Proofs.Json.RoundTrip
import GhostEdit.Proofs.Suggestion.Cleanup
import GhostEdit.Proofs.Suggestion.Intact
import GhostEdit.Proofs.Debounce
import GhostEdit.Proofs.Provider.Breaker
import GhostEdit.Proofs.Document.Window
import GhostEdit.Proofs.Suggestion.Echo
import GhostEdit.Proofs.Session.Ownership
import GhostEdit.Proofs.Session.Isolation
import GhostEdit.Proofs.Suggestion.Trimming
import GhostEdit.Proofs.Settings.Saving
import GhostEdit.Proofs.Session.Sharing
import GhostEdit.Proofs.Suggestion.Verbatim
import GhostEdit.Proofs.Json.Reading
import GhostEdit.Proofs.Json.Forming
import GhostEdit.Proofs.Suggestion.TrailingCommas
import GhostEdit.Proofs.Suggestion.Unwrapping
import GhostEdit.Proofs.Suggestion.Refusal
import GhostEdit.Proofs.Suggestion.Overlap
import GhostEdit.Proofs.Document.Chunks
import GhostEdit.Proofs.Ignore.Below
import GhostEdit.Proofs.Ignore.Globs
import GhostEdit.Proofs.Ignore.Directories
import GhostEdit.Proofs.Buffer.CursorInside
import GhostEdit.Proofs.Overlay.InlineSplit
