import JoinWizard.Json.Printer
import JoinWizard.Json.Parser
import JoinWizard.Catalog
import JoinWizard.JoinGraph
import JoinWizard.Gates
import JoinWizard.Connection
import JoinWizard.SavedConfig
import JoinWizard.SavedConfig.File
import JoinWizard.Source.Provider
import JoinWizard.Source.CatalogFile
import JoinWizard.Refresh
import JoinWizard.NameMap
import JoinWizard.Store
import JoinWizard.Store.Text
import JoinWizard.Session.Action
import JoinWizard.Session.Commit
import JoinWizard.Settings
import JoinWizard.Workspace
import JoinWizard.Cli.Commands
import JoinWizard.Main
import JoinWizard.Proofs.Selection
import JoinWizard.Proofs.Selection.History
import JoinWizard.Proofs.Join.Edge
import JoinWizard.Proofs.JoinGraph
import JoinWizard.Proofs.Session.Consistent
import JoinWizard.Proofs.Session.Notices
import JoinWizard.Proofs.Refresh.Awaited
import JoinWizard.Proofs.Refresh.Acceptance
import JoinWizard.Proofs.Json.Literals
import JoinWizard.Proofs.Json.RoundTrip
import JoinWizard.Proofs.Json.Codec
import JoinWizard.Proofs.SavedConfig
import JoinWizard.Proofs.Session.Lasting
import JoinWizard.Proofs.Store
import JoinWizard.Proofs.Session.Commit
import JoinWizard.Proofs.Session.Busy
import JoinWizard.Proofs.Session.Dialogue
import JoinWizard.Proofs.Session.Provenance
import JoinWizard.Proofs.Session.Renumber
import JoinWizard.Proofs.Session.Switch
import JoinWizard.Proofs.Source.Serves
import JoinWizard.Proofs.Session.DefaultSchema
import JoinWizard.Proofs.Session.Arrival
import JoinWizard.Proofs.Session.Failure
import JoinWizard.Proofs.Session.Sink
import JoinWizard.Proofs.Session.Unchanged
import JoinWizard.Proofs.Session.Restoring
import JoinWizard.Proofs.Json.Records
import JoinWizard.Proofs.Files.Tree
import JoinWizard.Proofs.Store.History
import JoinWizard.Proofs.Files.Stores
import JoinWizard.Proofs.Cli.Rerun
import JoinWizard.Proofs.Session.NewModel
import JoinWizard.Proofs.Session.Removal
import JoinWizard.Proofs.Settings.Reference
import JoinWizard.Proofs.JoinGraph.Declaring
import JoinWizard.Proofs.JoinGraph.Cascades
import JoinWizard.Proofs.Session.Addition
import JoinWizard.Proofs.SavedConfig.Resolution
import JoinWizard.Proofs.Refresh.SchemaChoice
import JoinWizard.Proofs.FactTable.Picker
import JoinWizard.Proofs.Connection
import JoinWizard.Proofs.Source.Listing
import JoinWizard.Proofs.Catalog
