import FixtureImages.Blueprint.Folder
import FixtureImages.Config.Environment
import FixtureImages.Config.Logging
import FixtureImages.Config.Validation
import FixtureImages.Proofs.Build.Abort
import FixtureImages.Proofs.Build.CommitSteps
import FixtureImages.Proofs.Build.Success
import FixtureImages.Proofs.Build.Turns
import FixtureImages.Proofs.Build.Visible
import FixtureImages.Proofs.Cleanup.Effect
import FixtureImages.Proofs.Deployment.Recovery
import FixtureImages.Proofs.Labels.Registration
import FixtureImages.Proofs.Build.Operations
import FixtureImages.Proofs.Build.Reuse
import FixtureImages.Proofs.Build.Networks
import FixtureImages.Proofs.Build.Failures
import FixtureImages.Proofs.Build.Artifacts
import FixtureImages.Proofs.Build.Confinement
import FixtureImages.Proofs.Build.Secrecy
import FixtureImages.Proofs.Build.Attachments
import FixtureImages.Proofs.Build.Causes
import FixtureImages.Proofs.Build.CommitLines
import FixtureImages.Proofs.Cleanup.Idempotence
import FixtureImages.Proofs.Decimal.Rounding
import FixtureImages.Proofs.Decimal.Shortest
import FixtureImages.Proofs.Decimal.Notation
import FixtureImages.Proofs.Yaml.Numbers
import FixtureImages.Proofs.Yaml.Cursor
import FixtureImages.Proofs.Yaml.PlainScalar
import FixtureImages.Proofs.Yaml.Quoted
import FixtureImages.Proofs.Yaml.SingleQuotes
import FixtureImages.Proofs.Yaml.DoubleQuotes
import FixtureImages.Proofs.Yaml.Lexing
import FixtureImages.Proofs.Yaml.Marks
import FixtureImages.Proofs.Yaml.Scalars
import FixtureImages.Proofs.Yaml.Texts
import FixtureImages.Proofs.Yaml.Layout
import FixtureImages.Proofs.Yaml.Documents
import FixtureImages.Proofs.Yaml.Nodes
import FixtureImages.Proofs.Yaml.Regular
import FixtureImages.Proofs.Blueprint.Plain
import FixtureImages.Proofs.Blueprint.Validation
import FixtureImages.Proofs.Blueprint.RoundTrip
import FixtureImages.Proofs.Blueprint.Revalidation
import FixtureImages.Proofs.Labels.Readings
import FixtureImages.Proofs.Cleanup.Foreign
import FixtureImages.Proofs.Blueprint.Names
import FixtureImages.Proofs.Build.Services
import FixtureImages.Proofs.Deployment.Environment
import FixtureImages.Proofs.Ports.Unmapped
import FixtureImages.Proofs.Action.Deadline
import FixtureImages.Proofs.Deployment.Readiness
import FixtureImages.Proofs.Blueprint.Folder
import FixtureImages.Proofs.Build.BaseImage
import FixtureImages.Proofs.Build.Records
import FixtureImages.Proofs.Archive.RoundTrip
import FixtureImages.Proofs.Ports.Address
