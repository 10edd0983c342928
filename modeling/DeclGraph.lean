import DeclGraph.Config.Load
import DeclGraph.Json.Printer
import DeclGraph.Log.FileTree
import DeclGraph.Proofs.Grammar.Encoding
import DeclGraph.Proofs.Interface.Provenance
import DeclGraph.Proofs.Interface.Rearrangement
import DeclGraph.Proofs.Interface.Renumbering
import DeclGraph.Query.Expr
import DeclGraph.Session
import DeclGraph.Text.CellWidth
import DeclGraph.Text.LetterCase
import DeclGraph.Text.Numeral
import DeclGraph.Proofs.Batch
import DeclGraph.Proofs.Interface.Renaming
import DeclGraph.Proofs.Query.Exhaustive
import DeclGraph.Proofs.Text.Markup
import DeclGraph.Proofs.Outline.KeyText
import DeclGraph.Proofs.Outline.Layout
import DeclGraph.Proofs.Outline.Dump
import DeclGraph.Proofs.TypeTable.FirstBad
import DeclGraph.Proofs.Datum.Entries
import DeclGraph.Proofs.Session
import DeclGraph.Proofs.Config.Escape
import DeclGraph.Proofs.TypeTable.Unfolding
import DeclGraph.Proofs.Grammar.ImportForm
import DeclGraph.Proofs.Grammar.ConstructorForm
import DeclGraph.Proofs.Grammar.Unmatched
import DeclGraph.Proofs.Grammar.Roles
import DeclGraph.Proofs.Interface.Mentions
import DeclGraph.Proofs.Text.Verbatim
import DeclGraph.Proofs.Outline.Verbatim
import DeclGraph.Proofs.Config.Destination
import DeclGraph.Proofs.Config.Settled
import DeclGraph.Proofs.Config.Override
import DeclGraph.Proofs.Tree.Missing
import DeclGraph.Proofs.Query.Laws
import DeclGraph.Proofs.Config.OneSection
import DeclGraph.Proofs.Config.Progress
