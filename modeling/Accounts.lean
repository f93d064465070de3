import Accounts.Client.Environment
import Accounts.Session.Basic
import Accounts.Transport.Peers
import Accounts.Proofs.Text.Utf8
import Accounts.Proofs.Percent
import Accounts.Proofs.Text.Split
import Accounts.Proofs.Url.Segments
import Accounts.Proofs.Url.Dots
import Accounts.Proofs.Client.AccountPath
import Accounts.Proofs.Decimal
import Accounts.Proofs.Url.Loopback
import Accounts.Proofs.Session.Moves
import Accounts.Proofs.Session.Turns
import Accounts.Proofs.Session.Cancelling
import Accounts.Proofs.Session.Exchanges
import Accounts.Proofs.Session.Outcomes
import Accounts.Proofs.Json.Number
import Accounts.Proofs.Json.Record
import Accounts.Proofs.Form
import Accounts.Proofs.User
import Accounts.Proofs.Server.Handling
import Accounts.Proofs.Transport.Calling
import Accounts.Proofs.Directory
import Accounts.Proofs.Session.Visiting
import Accounts.Proofs.Refinement
import Accounts.Proofs.Server.Refusal
import Accounts.Proofs.Reaching
import Accounts.Proofs.Session.Streams
import Accounts.Proofs.Json.Schema
import Accounts.Server.Account
import Accounts.Proofs.Server.Account
import Accounts.Proofs.Server.Keys
import Accounts.Proofs.Server.Renaming
import Accounts.Proofs.Client.Distinctness
import Accounts.Proofs.Session.Sending
import Accounts.Proofs.Session.Statuses
import Accounts.Proofs.Session.Dropping
import Accounts.Proofs.Session.Swapping
import Accounts.Proofs.Session.Isolation
import Accounts.Proofs.Json.Grammar
import Accounts.Proofs.Json.Scanning
import Accounts.Proofs.Json.Quoting
import Accounts.Proofs.Json.Numerals
import Accounts.Proofs.Json.Skipping
import Accounts.Proofs.Json.Columns
import Accounts.Proofs.Json.Members
import Accounts.Proofs.Json.Bodies
import Accounts.Proofs.Describing
import Accounts.Proofs.Labelling
import Accounts.Proofs.Server.Aliases
import Accounts.Proofs.Server.Bulk
import Accounts.Proofs.LoggingIn
import Accounts.Proofs.PathTemplate
import Accounts.Proofs.Appending
import Accounts.Proofs.Client.Environment
import Accounts.Proofs.Client.Documentation
import Accounts.Proofs.PathSegment
import Accounts.Proofs.Client.Messages
import Accounts.Proofs.Url.Visible
import Accounts.Proofs.Transport.Lines
import Accounts.Proofs.Transport.Outgoing
import Accounts.Proofs.Transport.Following
