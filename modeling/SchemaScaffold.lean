import SchemaScaffold.Main
import SchemaScaffold.Proofs.Catalog.RoundTrip
import SchemaScaffold.Proofs.Generation.Agreement
import SchemaScaffold.Proofs.Generation.Attempt
import SchemaScaffold.Proofs.Generation.Failing
import SchemaScaffold.Proofs.Generation.Keeping
import SchemaScaffold.Proofs.Generation.Lasting
import SchemaScaffold.Proofs.Generation.Ownership
import SchemaScaffold.Proofs.Generation.Replacing
import SchemaScaffold.Proofs.Migration.Column
import SchemaScaffold.Proofs.Project.Accounting
import SchemaScaffold.Proofs.Schema.Linking
import SchemaScaffold.Proofs.Stub.Rendering
import SchemaScaffold.Proofs.Generation.History
import SchemaScaffold.Proofs.Relationship.Accessor
import SchemaScaffold.Proofs.Relationship.Distinct
import SchemaScaffold.Proofs.Migration.PrimaryKey
import SchemaScaffold.Proofs.Relationship.Symmetry
import SchemaScaffold.Proofs.Schema.Origin
import SchemaScaffold.Proofs.Schema.Orientation
import SchemaScaffold.Proofs.Schema.Spelling
import SchemaScaffold.Proofs.Migration.Enumeration
import SchemaScaffold.Proofs.Migration.TableName
import SchemaScaffold.Proofs.Artifacts.Bystander
import SchemaScaffold.Proofs.Relationship.Scan
import SchemaScaffold.Proofs.Relationship.Search
import SchemaScaffold.Proofs.Stub.Transparency
import SchemaScaffold.Proofs.Migration.TargetName
import SchemaScaffold.Proofs.Relationship.Namesake
import SchemaScaffold.Proofs.Storage.Casting
import SchemaScaffold.Proofs.Migration.IndexLines
import SchemaScaffold.Proofs.Catalog.Declaration
import SchemaScaffold.Proofs.Catalog.IndexForms
import SchemaScaffold.Proofs.Schema.Nulls
import SchemaScaffold.Proofs.Catalog.Faithful
import SchemaScaffold.Proofs.Storage.Arguments
import SchemaScaffold.Proofs.Migration.NumberDefault
import SchemaScaffold.Proofs.Convention.Declarable
import SchemaScaffold.Proofs.Frontend.Outcomes
import SchemaScaffold.Proofs.Model.Lists
import SchemaScaffold.Proofs.Catalog.TextList
