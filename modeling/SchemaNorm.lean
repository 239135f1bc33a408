import SchemaNorm.Binary64
import SchemaNorm.Binary64.Shortest
import SchemaNorm.Binary64.Layout
import SchemaNorm.Json.Value
import SchemaNorm.Json.Number
import SchemaNorm.Json.Reader
import SchemaNorm.Json.Writer
import SchemaNorm.Datum
import SchemaNorm.Graph
import SchemaNorm.Graph.Decode
import SchemaNorm.Text.WhiteSpace
import SchemaNorm.Schema
import SchemaNorm.Error
import SchemaNorm.Classify
import SchemaNorm.Indexes
import SchemaNorm.Relations
import SchemaNorm.Assembly
import SchemaNorm.Normalize
import SchemaNorm.Graph.Encode
import SchemaNorm.Schema.Encode
import SchemaNorm.Schema.Decode
import SchemaNorm.Digest.Sha256
import SchemaNorm.Checksum
import SchemaNorm.Validation
import SchemaNorm.Render.Literal
import SchemaNorm.Render.Prisma
import SchemaNorm.Render.TypeScript
import SchemaNorm.Render.Target
import SchemaNorm.Yaml.Node
import SchemaNorm.Yaml.Merge
import SchemaNorm.Yaml.Reader
import SchemaNorm.Text.Base64
import SchemaNorm.Yaml.Scalar
import SchemaNorm.Yaml.Decode
import SchemaNorm.Text.Printable
import SchemaNorm.Files.Path
import SchemaNorm.Files.Tree
import SchemaNorm.Files.System
import SchemaNorm.Graph.Text
import SchemaNorm.Yaml.Writer
import SchemaNorm.Config
import SchemaNorm.Files.Load
import SchemaNorm.Cli.Spec
import SchemaNorm.Cli.Parse
import SchemaNorm.Cli.Run
import SchemaNorm.Main
import SchemaNorm.Proofs.FirstFailure
import SchemaNorm.Proofs.Dedup
import SchemaNorm.Proofs.Columns
import SchemaNorm.Proofs.Resolve
import SchemaNorm.Proofs.Tables
import SchemaNorm.Proofs.Normalize
import SchemaNorm.Proofs.Runs
import SchemaNorm.Proofs.JsonText
import SchemaNorm.Proofs.NumberText
import SchemaNorm.Proofs.Rounding
import SchemaNorm.Proofs.ShortestDecimal
import SchemaNorm.Proofs.DecimalText
import SchemaNorm.Proofs.SchemaJson
import SchemaNorm.Proofs.NumberRange
import SchemaNorm.Proofs.RelationKeys
import SchemaNorm.Proofs.FileEffects
import SchemaNorm.Proofs.CommandEffects
import SchemaNorm.Proofs.SnapshotJson
import SchemaNorm.Proofs.Findings
import SchemaNorm.Proofs.Utf8Order
import SchemaNorm.Proofs.PrismaOrder
import SchemaNorm.Proofs.PrismaRelations
import SchemaNorm.Proofs.IndexKinds
import SchemaNorm.Proofs.Classification
import SchemaNorm.Proofs.LengthHint
import SchemaNorm.Proofs.ScriptStrings
