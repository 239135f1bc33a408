import SchemaNorm.Schema.Encode
import SchemaNorm.Json.Writer
import SchemaNorm.Digest.Sha256

/-!
The checksum of a normalized schema: the SHA-256 digest of its canonical text, the compact
JSON of its models, enums, relations and warnings (the summary left out). Two schemas with
equal content have equal checksums, whatever their summaries.
-/

namespace SchemaNorm

namespace Schema

/-- The canonical text of a schema's content. -/
def canonicalText (s : Schema) : String := Json.compact (.obj s.contentFields)

/-- The checksum, in lowercase hexadecimal. -/
def checksum (s : Schema) : String := Sha256.hexDigest s.canonicalText

end Schema

end SchemaNorm
