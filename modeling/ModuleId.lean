import ModuleId.Text.Split
import ModuleId.Text.Ascii
import ModuleId.Text.Blank
import ModuleId.Text.Quoted
import ModuleId.Path.Check
import ModuleId.Version.Precedence
import ModuleId.Version.Canonical
import ModuleId.Escape
import ModuleId.Release.Check
import ModuleId.Release.Order
import ModuleId.Release.Json
import ModuleId.Listing
import ModuleId.Command.Outcome
import ModuleId.Main
import ModuleId.Proofs.Escape.Codec
import ModuleId.Proofs.Path.Grammar
import ModuleId.Proofs.Escape.RoundTrip
import ModuleId.Proofs.Order.Precedence
import ModuleId.Proofs.Order.Release
import ModuleId.Proofs.Order.Sort
import ModuleId.Proofs.Version.Reader
import ModuleId.Proofs.Version.Grammar
import ModuleId.Proofs.Version.Pattern
import ModuleId.Proofs.Version.Rank
import ModuleId.Proofs.Escape.Shape
import ModuleId.Proofs.Version.FileName
import ModuleId.Proofs.Release.CacheKey
import ModuleId.Proofs.Path.Suffix
import ModuleId.Proofs.Release.Home
import ModuleId.Proofs.Release.Wanted
import ModuleId.Proofs.Path.Dialect
import ModuleId.Proofs.Path.Kinds
import ModuleId.Proofs.Text.Fields
import ModuleId.Proofs.Listing.Reader
import ModuleId.Proofs.Listing.Piped
import ModuleId.Proofs.Order.Canonical
import ModuleId.Proofs.Release.Canonical
import ModuleId.Proofs.Listing.Arrangement
import ModuleId.Proofs.Path.Major
import ModuleId.Proofs.Escape.Suffix
import ModuleId.Proofs.Release.Rule
import ModuleId.Proofs.Path.Defect
import ModuleId.Proofs.Path.Joined
import ModuleId.Proofs.Escape.Refusal
import ModuleId.Proofs.Path.Stem
import ModuleId.Proofs.Text.Visible
import ModuleId.Proofs.Listing.Written
import ModuleId.Proofs.Listing.Failure
import ModuleId.Proofs.Text.Control
import ModuleId.Proofs.Release.Message
import ModuleId.Proofs.Path.Case
import ModuleId.Proofs.Json.Literal
import ModuleId.Proofs.Json.Token
import ModuleId.Proofs.Json.Reader
import ModuleId.Proofs.Release.Json
import ModuleId.Proofs.Text.Octets
import ModuleId.Proofs.Path.Octets
import ModuleId.Proofs.Version.Octets
import ModuleId.Proofs.Release.Octets
