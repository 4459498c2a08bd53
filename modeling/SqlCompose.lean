import SqlCompose.Log
import SqlCompose.Proofs.Query.Foreign
import SqlCompose.Proofs.Query.History
import SqlCompose.Proofs.Schema.TypeTag
import SqlCompose.Proofs.Session.Argument
import SqlCompose.Proofs.Session.Entry
import SqlCompose.Proofs.Session.Frame
import SqlCompose.Proofs.Session.Insert
import SqlCompose.Proofs.Session.Interleaving
import SqlCompose.Proofs.Session.Key
import SqlCompose.Proofs.Session.Mapped
import SqlCompose.Proofs.Session.Paging
import SqlCompose.Proofs.Session.Registry
import SqlCompose.Proofs.Session.Termination
import SqlCompose.Proofs.Session.Validation
import SqlCompose.Proofs.Session.Verdict
import SqlCompose.Proofs.Statement.Capture
import SqlCompose.Proofs.Statement.Column
import SqlCompose.Proofs.Statement.Conjunction
import SqlCompose.Proofs.Statement.Equal
import SqlCompose.Proofs.Statement.Escape
import SqlCompose.Proofs.Statement.Filter
import SqlCompose.Proofs.Statement.Listing
import SqlCompose.Proofs.Statement.Naming
import SqlCompose.Proofs.Statement.Nullable
import SqlCompose.Proofs.Statement.Outline
import SqlCompose.Proofs.Statement.Paging
import SqlCompose.Proofs.Statement.Verbatim
import SqlCompose.Catalog
import SqlCompose.Schema.Description
import SqlCompose.Statement.Loose
import SqlCompose.Value.Wire
