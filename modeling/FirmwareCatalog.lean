import FirmwareCatalog.Api.Connect
import FirmwareCatalog.Api.Queries
import FirmwareCatalog.Api.Redirect
import FirmwareCatalog.Api.Script
import FirmwareCatalog.Catalog.Download
import FirmwareCatalog.Proofs.Api.BuildScan
import FirmwareCatalog.Settings.Store
import FirmwareCatalog.Settings.Validate
import FirmwareCatalog.Proofs.Json.Strings
import FirmwareCatalog.Proofs.Json.Written
import FirmwareCatalog.Proofs.Json.Fields
import FirmwareCatalog.Proofs.Json.Follows
import FirmwareCatalog.Proofs.Json.Token
import FirmwareCatalog.Proofs.Json.Grammar
import FirmwareCatalog.Proofs.Json.Writable
import FirmwareCatalog.Proofs.Json.Records
import FirmwareCatalog.Proofs.Timestamp.Text
import FirmwareCatalog.Proofs.Catalog.RoundTrip
import FirmwareCatalog.Proofs.Catalog.Losses
import FirmwareCatalog.Proofs.Catalog.Contents
import FirmwareCatalog.Proofs.Catalog.Entries
import FirmwareCatalog.Proofs.Text.Utf8
import FirmwareCatalog.Proofs.Url.Percent
import FirmwareCatalog.Proofs.Url.Segments
import FirmwareCatalog.Proofs.Api.Address
import FirmwareCatalog.Proofs.Api.Failure
import FirmwareCatalog.Proofs.Api.Context
import FirmwareCatalog.Proofs.Api.Truncation
import FirmwareCatalog.Proofs.Api.Shapes
import FirmwareCatalog.Proofs.Api.Agreement
import FirmwareCatalog.Proofs.Settings.Layering
import FirmwareCatalog.Proofs.Toml.Lines
import FirmwareCatalog.Proofs.Settings.Saved
import FirmwareCatalog.Proofs.Api.Redirect
import FirmwareCatalog.Proofs.Api.Origin
import FirmwareCatalog.Proofs.Api.Paired
import FirmwareCatalog.Proofs.Settings.Validated
import FirmwareCatalog.Proofs.Text.Pieces
import FirmwareCatalog.Proofs.Files.Components
import FirmwareCatalog.Proofs.Files.Parent
import FirmwareCatalog.Proofs.Api.Handling
import FirmwareCatalog.Proofs.Settings.Unsaved
import FirmwareCatalog.Proofs.Settings.Fallback
import FirmwareCatalog.Proofs.Api.Base
import FirmwareCatalog.Proofs.Api.Lookups
import FirmwareCatalog.Proofs.Timestamp.Calendar
import FirmwareCatalog.Proofs.Timestamp.Offsets
import FirmwareCatalog.Proofs.Catalog.Equality
import FirmwareCatalog.Proofs.Json.Integers
import FirmwareCatalog.Proofs.Json.Slots
import FirmwareCatalog.Proofs.Catalog.Numbers
import FirmwareCatalog.Proofs.Toml.Kept
import FirmwareCatalog.Proofs.Toml.Unbounded
import FirmwareCatalog.Proofs.Toml.Literals
import FirmwareCatalog.Proofs.Settings.Integers
import FirmwareCatalog.Proofs.Settings.Timeouts
