import ApiView.Main
import ApiView.Proofs.Outcomes
import ApiView.Proofs.Build.Drafts
import ApiView.Proofs.Build.MethodNames
import ApiView.Proofs.Security.Credentials
import ApiView.Proofs.Request.Strictness
import ApiView.Proofs.Build.Headers
import ApiView.Proofs.Reference.Tables
import ApiView.Proofs.Translation.Document
import ApiView.Proofs.Translation.References
import ApiView.Proofs.Translation.Responses
import ApiView.Proofs.Translation.Methods
import ApiView.Proofs.Translation.Views
import ApiView.Proofs.Operation.Items
import ApiView.Proofs.Build.Surroundings
import ApiView.Proofs.Build.Outline
import ApiView.Proofs.Build.Insertion
import ApiView.Proofs.Build.Targets
import ApiView.Proofs.Build.Derived
import ApiView.Proofs.Build.Pruned
import ApiView.Proofs.Reference.Chains
import ApiView.Proofs.Build.Broken
import ApiView.Proofs.Text.Kept
import ApiView.Proofs.Text.Bytes
import ApiView.Proofs.Json.Strings
import ApiView.Proofs.Json.Numbers
import ApiView.Proofs.Scalars
import ApiView.Proofs.Json.Leaves
import ApiView.Proofs.Json.Reading
import ApiView.Proofs.Json.Layout
import ApiView.Proofs.Json.Compact
import ApiView.Proofs.Json.Indented
import ApiView.Proofs.Parameter.Defaults
import ApiView.Proofs.Text.Classes
import ApiView.Proofs.Naming.Identifier
import ApiView.Proofs.Build.SafeNames
import ApiView.Proofs.Thinned
import ApiView.Proofs.Operation.Ignored
import ApiView.Proofs.Build.PassedOver
import ApiView.Proofs.Schema.Named
import ApiView.Proofs.Build.Definitions
import ApiView.Proofs.View.Forms
import ApiView.Proofs.CommandLine.Delivery
import ApiView.Proofs.CommandLine.Restored
import ApiView.Proofs.Options.Fields
import ApiView.Proofs.Options.Precedence
import ApiView.Proofs.Upgrade.Views
import ApiView.Proofs.Reference.Pointers
import ApiView.Proofs.Reference.Iteration
import ApiView.Proofs.Source.Failures
import ApiView.Proofs.Source.Formats
import ApiView.Proofs.Reference.Escapes
import ApiView.Proofs.Naming.Histories
import ApiView.Proofs.Schema.Intersections
import ApiView.Proofs.Naming.Paths
import ApiView.Proofs.Reference.BareNames
import ApiView.Proofs.Schema.Enumerations
import ApiView.Proofs.Schema.Nullability
import ApiView.Proofs.Build.Contents
import ApiView.Proofs.Parameter.Classified
import ApiView.Proofs.Schema.Objects
import ApiView.Proofs.Report.Cells
import ApiView.Proofs.CommandLine.Endings
import ApiView.Proofs.Naming.CamelCase
import ApiView.Proofs.Template.Layouts
import ApiView.Proofs.Template.Rows
import ApiView.Proofs.Naming.Boundaries
