import EnvTemplate.Settings.Load
import EnvTemplate.Proofs.Codec.Base64
import EnvTemplate.Proofs.Codec.Csv
import EnvTemplate.Proofs.Placeholder.Enclosing
import EnvTemplate.Proofs.Query.Appending
import EnvTemplate.Proofs.Query.Extracted
import EnvTemplate.Proofs.Query.Names
import EnvTemplate.Proofs.Query.Nested
import EnvTemplate.Proofs.Query.Unclosed
import EnvTemplate.Proofs.Settings.Saved
import EnvTemplate.Proofs.Template.Nesting
import EnvTemplate.Proofs.Template.Segments
import EnvTemplate.Proofs.Template.Simultaneous
import EnvTemplate.Proofs.Url.Credentials
import EnvTemplate.Proofs.Value.Coercion
import EnvTemplate.Proofs.Value.Coherence
import EnvTemplate.Proofs.Value.Exchange
import EnvTemplate.Proofs.Value.Integer
import EnvTemplate.Proofs.World.Cases
import EnvTemplate.Proofs.World.Distinct
import EnvTemplate.Proofs.World.Escapes
import EnvTemplate.Proofs.World.Failing
import EnvTemplate.Proofs.World.Indexing
import EnvTemplate.Proofs.World.JsonFile
import EnvTemplate.Proofs.World.Origin
import EnvTemplate.Proofs.World.WellFormed
