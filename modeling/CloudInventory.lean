import CloudInventory.Api.Error
import CloudInventory.Api.Page
import CloudInventory.Binary64.Basic
import CloudInventory.Binary64.Decimal
import CloudInventory.Binary64.Notation
import CloudInventory.Binary64.Reading
import CloudInventory.Binary64.Rounding
import CloudInventory.Command.Arguments
import CloudInventory.Command.Outline
import CloudInventory.Command.Run
import CloudInventory.Diagnostic
import CloudInventory.Dictionary
import CloudInventory.Digest.Sha256
import CloudInventory.Filter.Catalog
import CloudInventory.Filter.Entry
import CloudInventory.Filter.Error
import CloudInventory.Filter.FieldValue
import CloudInventory.Filter.Fingerprint
import CloudInventory.Filter.Header
import CloudInventory.Filter.Latest
import CloudInventory.Filter.Local
import CloudInventory.Filter.Query
import CloudInventory.Filter.Read
import CloudInventory.Filter.Validators
import CloudInventory.Fixture.Basic
import CloudInventory.Fixture.Paging
import CloudInventory.Fixture.Selection
import CloudInventory.Interaction
import CloudInventory.Json.Basic
import CloudInventory.Json.Spelling
import CloudInventory.Json.Writer
import CloudInventory.Main
import CloudInventory.Pattern.Classes
import CloudInventory.Pattern.Encoding
import CloudInventory.Pattern.Memory
import CloudInventory.Pattern.Memory.Part
import CloudInventory.Pattern.Memory.Sets
import CloudInventory.Pattern.Memory.Texts
import CloudInventory.Pattern.Reader
import CloudInventory.Pattern.Reader.Brackets
import CloudInventory.Pattern.Reader.Cursor
import CloudInventory.Pattern.Reader.Escapes
import CloudInventory.Pattern.Reader.Items
import CloudInventory.Pattern.Reader.Openings
import CloudInventory.Pattern.Regex
import CloudInventory.Pattern.Simplified
import CloudInventory.Pattern.Tables.Age
import CloudInventory.Pattern.Tables.Category
import CloudInventory.Pattern.Tables.Folding
import CloudInventory.Pattern.Tables.Property
import CloudInventory.Pattern.Tables.Script
import CloudInventory.Pattern.Tables.ScriptExtension
import CloudInventory.Pattern.Tables.Segmentation
import CloudInventory.Provider.Error
import CloudInventory.Provider.Settings
import CloudInventory.Record.Basic
import CloudInventory.Record.Misfit
import CloudInventory.Record.Reader
import CloudInventory.Schema.AttributeType
import CloudInventory.Schema.Basic
import CloudInventory.Schema.Findings
import CloudInventory.Schema.Validator
import CloudInventory.Source.Basic
import CloudInventory.Source.Database
import CloudInventory.Source.DatabaseEngine
import CloudInventory.Source.Firewall
import CloudInventory.Source.Image
import CloudInventory.Source.InstanceType
import CloudInventory.Source.Region
import CloudInventory.Source.Registry
import CloudInventory.Source.Results
import CloudInventory.Source.StackScript
import CloudInventory.Source.User
import CloudInventory.Source.Volume
import CloudInventory.Source.Vpc
import CloudInventory.Text.Blank
import CloudInventory.Text.CodeRanges
import CloudInventory.Text.Hex
import CloudInventory.Text.Integer
import CloudInventory.Text.Parts
import CloudInventory.Text.Printable
import CloudInventory.Text.Quoted
import CloudInventory.Time.Calendar
import CloudInventory.Time.Timestamp
import CloudInventory.Value
import CloudInventory.Version
import CloudInventory.Proofs.Leaves
import CloudInventory.Proofs.Matching
import CloudInventory.Proofs.WrittenDocuments
import CloudInventory.Proofs.FilterDocument
import CloudInventory.Proofs.Split
import CloudInventory.Proofs.RecordParts
import CloudInventory.Proofs.Registrations
import CloudInventory.Proofs.VendorAgreement
import CloudInventory.Proofs.DistinctInOrder
import CloudInventory.Proofs.Identity
import CloudInventory.Proofs.MostRecent
import CloudInventory.Proofs.FixtureSelection
import CloudInventory.Proofs.CheckedConfig
import CloudInventory.Proofs.FixturePages
import CloudInventory.Proofs.FixtureRead
import CloudInventory.Proofs.Acceptance
import CloudInventory.Proofs.SpelledQuery
import CloudInventory.Proofs.ValidConfig
import CloudInventory.Proofs.PlannedQuery
import CloudInventory.Proofs.WellFormedQuery
import CloudInventory.Proofs.Preview
import CloudInventory.Proofs.SameMeaning
import CloudInventory.Proofs.RunHistory
import CloudInventory.Proofs.Looks
import CloudInventory.Proofs.Cancellation
import CloudInventory.Proofs.Reordering
import CloudInventory.Proofs.OrderBlind
import CloudInventory.Proofs.Conformance
import CloudInventory.Proofs.ResultShape
import CloudInventory.Proofs.ShownFields
import CloudInventory.Proofs.NarrowedRead
import CloudInventory.Proofs.PagedList
import CloudInventory.Proofs.SharedVendor
import CloudInventory.Proofs.SentAndKept
import CloudInventory.Proofs.HeaderText
import CloudInventory.Proofs.LocalPass
import CloudInventory.Proofs.FirstGreatest
import CloudInventory.Proofs.CalendarOrder
import CloudInventory.Proofs.DecimalDigits
import CloudInventory.Proofs.TimestampText
import CloudInventory.Proofs.WholeNumbers
import CloudInventory.Proofs.QueryGrammar
import CloudInventory.Proofs.BlamedPart
import CloudInventory.Proofs.FindingsApart
import CloudInventory.Proofs.DiagnosedPlaces
import CloudInventory.Proofs.StableOrder
import CloudInventory.Proofs.RoundedNumbers
import CloudInventory.Proofs.ByteOrder
import CloudInventory.Proofs.OrderedItems
import CloudInventory.Proofs.Gatekeepers
import CloudInventory.Proofs.GivenSettings
import CloudInventory.Proofs.ServiceAddress
import CloudInventory.Proofs.HiddenToken
import CloudInventory.Proofs.ValueDocuments
import CloudInventory.Proofs.MemberOrder
import CloudInventory.Proofs.PageWalk
import CloudInventory.Proofs.VersionText
import CloudInventory.Proofs.FirstMismatch
import CloudInventory.Proofs.VisitedLeaves
