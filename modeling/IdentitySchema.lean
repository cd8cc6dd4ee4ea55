import IdentitySchema.Main
import IdentitySchema.Routing
import IdentitySchema.Proofs.Fragment.SubAttributes
import IdentitySchema.Proofs.Names
import IdentitySchema.Proofs.Payload.Violations
import IdentitySchema.Proofs.Document.Reports
import IdentitySchema.Proofs.Fragment.WellFormed
import IdentitySchema.Proofs.Document.WellFormed
import IdentitySchema.Proofs.Routing.Verdict
import IdentitySchema.Proofs.Routing.Reordering
import IdentitySchema.Proofs.ByteOrder
import IdentitySchema.Proofs.Registry.Directories
import IdentitySchema.Proofs.Inspection
import IdentitySchema.Proofs.Registry.Builds
import IdentitySchema.Proofs.Registry.Runs
import IdentitySchema.Proofs.Values.Classes
import IdentitySchema.Proofs.Payload.Duplicates
import IdentitySchema.Proofs.Decimal.Shortest
import IdentitySchema.Proofs.Decimal.Layout
import IdentitySchema.Proofs.Payload.Numbers
import IdentitySchema.Proofs.Document.Texts
import IdentitySchema.Proofs.Document.AttributeNames
import IdentitySchema.Proofs.Timestamp
import IdentitySchema.Proofs.Fragment.Lifted
import IdentitySchema.Proofs.Payload.Bags
import IdentitySchema.Proofs.Payload.Itemwise
import IdentitySchema.Proofs.Payload.CanonicalValues
import IdentitySchema.Proofs.Document.Identity
import IdentitySchema.Proofs.Outlines
import IdentitySchema.Proofs.Document.Places
import IdentitySchema.Proofs.Fragment.Trees
