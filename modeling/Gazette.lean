import Gazette.Main
import Gazette.Wire.ReadText
import Gazette.Wire.Write
import Gazette.Proofs.Tree.Canonical
import Gazette.Proofs.Tree.Traversal
import Gazette.Proofs.Wire.ReadLaws
import Gazette.Proofs.Wire.RoundTrip
import Gazette.Proofs.Page.Table
import Gazette.Proofs.Page.Nesting
import Gazette.Proofs.Page.Words
import Gazette.Proofs.Wire.Documents
import Gazette.Proofs.Wire.Entries
import Gazette.Proofs.Page.Alike
import Gazette.Proofs.Client.Answers
import Gazette.Proofs.Client.Listing
import Gazette.Proofs.Client.Articles
import Gazette.Proofs.Client.Reports
import Gazette.Proofs.Client.Idle
import Gazette.Proofs.Wire.Records
import Gazette.Proofs.Wire.Conformance
import Gazette.Proofs.Json.Sorted
import Gazette.Proofs.Json.Drafts
import Gazette.Proofs.Wire.Texts
import Gazette.Proofs.Text.Utf8
import Gazette.Proofs.Json.Leaves
import Gazette.Proofs.Json.RoundTrip
import Gazette.Proofs.Wire.Written
import Gazette.Proofs.Client.Depth
import Gazette.Proofs.Json.Parsed
import Gazette.Proofs.Query.FilterText
import Gazette.Proofs.Query.Tokens
import Gazette.Proofs.Query.Shape
import Gazette.Proofs.Wire.Envelopes
import Gazette.Proofs.Client.Verdicts
import Gazette.Proofs.Client.Replies
import Gazette.Proofs.Client.Session
import Gazette.Proofs.Query.Building
import Gazette.Proofs.Calendar.Days
import Gazette.Proofs.Calendar.Timestamps
import Gazette.Proofs.Address.Visible
import Gazette.Proofs.Client.Header
import Gazette.Proofs.Client.Pages
import Gazette.Proofs.Query.Variables
import Gazette.Proofs.Query.Mentions
import Gazette.Proofs.Page.Markers
