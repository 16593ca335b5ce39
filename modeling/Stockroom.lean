import Stockroom.Inventory.Repository
import Stockroom.Main
import Stockroom.Proofs.Query.Token
import Stockroom.Proofs.Time.Calendar
import Stockroom.Proofs.Uuid
import Stockroom.Proofs.Time.Timestamp
import Stockroom.Proofs.Device.Boundary
import Stockroom.Proofs.Sql.Expression
import Stockroom.Proofs.Sql.Grammar
import Stockroom.Proofs.Sql.Reading
import Stockroom.Proofs.Query.Meaning
import Stockroom.Proofs.Sql.Query
import Stockroom.Proofs.Query.Translation
import Stockroom.Proofs.Database.Basic
import Stockroom.Proofs.Database.Keyset
import Stockroom.Proofs.Inventory.Walk
import Stockroom.Proofs.Inventory.Continuation
import Stockroom.Proofs.Inventory.Handover
import Stockroom.Proofs.Inventory.Return
import Stockroom.Proofs.Query.Draft
import Stockroom.Proofs.Inventory.Request
import Stockroom.Proofs.Inventory.Acceptance
import Stockroom.Proofs.Inventory.Calls
import Stockroom.Proofs.Query.Inputs
import Stockroom.Proofs.Sql.Placeholders
import Stockroom.Proofs.Query.Numbering
import Stockroom.Proofs.Query.Alike
import Stockroom.Proofs.Query.Steps
import Stockroom.Proofs.Inventory.Assembly
import Stockroom.Proofs.Inventory.Flags
import Stockroom.Proofs.Json.Shape
import Stockroom.Proofs.Json.Regular
import Stockroom.Proofs.Json.Again
import Stockroom.Proofs.Query.Normal
import Stockroom.Proofs.Query.Lookups
import Stockroom.Proofs.Query.Refusal
import Stockroom.Proofs.Query.Connectives
import Stockroom.Proofs.Inventory.Windows
import Stockroom.Proofs.Text.Numeral
import Stockroom.Proofs.Settings.Loading
import Stockroom.Proofs.Text.Woven
import Stockroom.Proofs.Settings.Address
import Stockroom.Proofs.Inventory.Limits
import Stockroom.Proofs.Query.Keyset
import Stockroom.Proofs.Sql.Declaration
import Stockroom.Proofs.Device.Admission
import Stockroom.Proofs.Query.Projection
