import VersionPick.Arguments
import VersionPick.Http.Form
import VersionPick.Http.Message
import VersionPick.Http.Target
import VersionPick.Json.Reader
import VersionPick.Json.Value
import VersionPick.Regex.Basic
import VersionPick.Regex.ByteRow
import VersionPick.Regex.Draft
import VersionPick.Regex.Expr
import VersionPick.Regex.Fault
import VersionPick.Regex.Flags
import VersionPick.Regex.Parser
import VersionPick.Regex.Plan
import VersionPick.Regex.Size
import VersionPick.Regex.Start
import VersionPick.Registry.Endpoint
import VersionPick.Registry.Error
import VersionPick.Registry.Fetch
import VersionPick.Registry.Listing
import VersionPick.Rendering
import VersionPick.Selection
import VersionPick.Selector.Basic
import VersionPick.Selector.Parser
import VersionPick.Selector.Rank
import VersionPick.Selector.Slot
import VersionPick.Selector.SlotMatcher
import VersionPick.Selector.VersionPattern
import VersionPick.Session
import VersionPick.Settings
import VersionPick.Source
import VersionPick.Text.Cut
import VersionPick.Text.Decimal
import VersionPick.Text.Hex
import VersionPick.Text.Quoted
import VersionPick.Unicode.Additions
import VersionPick.Unicode.Age
import VersionPick.Unicode.CaseFolding
import VersionPick.Unicode.Category
import VersionPick.Unicode.CharSet
import VersionPick.Unicode.GraphemeBreak
import VersionPick.Unicode.Property
import VersionPick.Unicode.Script
import VersionPick.Unicode.ScriptExtension
import VersionPick.Unicode.SentenceBreak
import VersionPick.Unicode.Trait
import VersionPick.Unicode.WordBreak
import VersionPick.Version.Basic
import VersionPick.Version.Extraction
import VersionPick.Version.Parser
import VersionPick.Version.Patch
import VersionPick.Version.Runs
import VersionPick.Version.Sorting
import VersionPick.Main
import VersionPick.Proofs.Version.Order
import VersionPick.Proofs.Version.Sorting
import VersionPick.Proofs.Version.Runs
import VersionPick.Proofs.Version.Distinct
import VersionPick.Proofs.Selector.Patterns
import VersionPick.Proofs.Selector.Safety
import VersionPick.Proofs.Selector.Slotwise
import VersionPick.Proofs.Lines
import VersionPick.Proofs.Selector.Grammar
import VersionPick.Proofs.Selector.Writing
import VersionPick.Proofs.Version.Grammar
import VersionPick.Proofs.Output
import VersionPick.Proofs.Selector.Unions
import VersionPick.Proofs.Prefixes
import VersionPick.Proofs.Selector.Composition
import VersionPick.Proofs.Selector.Repeated
import VersionPick.Proofs.NameOrder
import VersionPick.Proofs.Session
import VersionPick.Proofs.Selector.SlotRanks
import VersionPick.Proofs.Selector.Ends
import VersionPick.Proofs.Version.ReadBack
import VersionPick.Proofs.Selector.Literals
import VersionPick.Proofs.Version.Padding
import VersionPick.Proofs.Version.Grouping
import VersionPick.Proofs.Version.Extraction
import VersionPick.Proofs.Version.Stability
import VersionPick.Proofs.Http.Form
import VersionPick.Proofs.Registry.Responses
import VersionPick.Proofs.Registry.Coordinates
