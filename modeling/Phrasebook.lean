import Phrasebook.Comparison
import Phrasebook.FileTree
import Phrasebook.Main
import Phrasebook.Modifier.Span
import Phrasebook.Template.Printer
import Phrasebook.Proofs.Template.Canonical
import Phrasebook.Proofs.Template.RoundTrip
import Phrasebook.Proofs.Template.Flaws
import Phrasebook.Proofs.Modifier.Stripping
import Phrasebook.Proofs.Modifier.Chains
import Phrasebook.Proofs.Text.EditDistance
import Phrasebook.Proofs.Suggestion.Ranking
import Phrasebook.Proofs.Resolve.Agreement
import Phrasebook.Proofs.Resolve.Outline
import Phrasebook.Proofs.Resolve.Dependence
import Phrasebook.Proofs.Resolve.Items
import Phrasebook.Proofs.Locale.Run
import Phrasebook.Proofs.Locale.Tickets
import Phrasebook.Proofs.Locale.LastRequested
import Phrasebook.Proofs.Locale.FailedLoad
import Phrasebook.Proofs.Locale.Consistency
import Phrasebook.Proofs.Catalog.RoundTrip
import Phrasebook.Proofs.CommandLine.Coverage
import Phrasebook.Proofs.CommandLine.Alignment
import Phrasebook.Proofs.Catalog.Entries
import Phrasebook.Proofs.CommandLine.Labels
import Phrasebook.Proofs.Validation.LeftmostMissing
import Phrasebook.Proofs.Catalog.Differences
import Phrasebook.Proofs.Resolve.Prefixes
import Phrasebook.Proofs.Template.Pruning
import Phrasebook.Proofs.Lint.Clean
import Phrasebook.Proofs.Catalog.Insertion
import Phrasebook.Proofs.Resolve.Verbatim
import Phrasebook.Proofs.Resolve.Cursor
import Phrasebook.Proofs.Resolve.Bounds
