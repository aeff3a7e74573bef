import ChatImport.Archive.Basic
import ChatImport.Archive.Checksum
import ChatImport.Archive.Ending
import ChatImport.Archive.Entry
import ChatImport.Archive.Extra
import ChatImport.Archive.Inflate
import ChatImport.Archive.Name
import ChatImport.Archive.Number
import ChatImport.ChannelKind
import ChatImport.CommandLine.Arguments
import ChatImport.CommandLine.Scan
import ChatImport.Config
import ChatImport.Conversion.Basic
import ChatImport.Conversion.Channels
import ChatImport.Conversion.Posts
import ChatImport.Conversion.Run
import ChatImport.Conversion.Users
import ChatImport.Double.Basic
import ChatImport.Double.Decimal
import ChatImport.Double.Places
import ChatImport.Double.Shortest
import ChatImport.Endpoint.Address
import ChatImport.Endpoint.Basic
import ChatImport.Endpoint.Ipv6
import ChatImport.Error
import ChatImport.Export.Basic
import ChatImport.Export.Reading
import ChatImport.Export.Uploads
import ChatImport.Files.Path
import ChatImport.Files.Tree
import ChatImport.Json.Decoder
import ChatImport.Json.Numeral
import ChatImport.Json.Problem
import ChatImport.Json.Token
import ChatImport.Json.Tree
import ChatImport.Json.Value
import ChatImport.Log
import ChatImport.Main
import ChatImport.Mattermost.Channel
import ChatImport.Mattermost.Handle
import ChatImport.Mattermost.Import
import ChatImport.Mattermost.Limits
import ChatImport.Mattermost.Lines
import ChatImport.Mattermost.Post
import ChatImport.Mattermost.User
import ChatImport.Program
import ChatImport.Proofs.Conversion.Announcing
import ChatImport.Proofs.Conversion.Assembling
import ChatImport.Proofs.Conversion.Attachments
import ChatImport.Proofs.Conversion.Backing
import ChatImport.Proofs.Conversion.Channels
import ChatImport.Proofs.Conversion.Chapters
import ChatImport.Proofs.Conversion.Counting
import ChatImport.Proofs.Conversion.Dating
import ChatImport.Proofs.Conversion.Emitting
import ChatImport.Proofs.Conversion.Episodes
import ChatImport.Proofs.Conversion.Integrity
import ChatImport.Proofs.Conversion.Isolation
import ChatImport.Proofs.Conversion.Limits
import ChatImport.Proofs.Conversion.Listing
import ChatImport.Proofs.Conversion.Memberships
import ChatImport.Proofs.Conversion.Posts
import ChatImport.Proofs.Conversion.ReadingBack
import ChatImport.Proofs.Conversion.Reordering
import ChatImport.Proofs.Conversion.Rerun
import ChatImport.Proofs.Conversion.Runs
import ChatImport.Proofs.Conversion.SignIn
import ChatImport.Proofs.Conversion.Tales
import ChatImport.Proofs.Conversion.Width
import ChatImport.Proofs.Conversion.WorkflowUser
import ChatImport.Proofs.Export.Agreement
import ChatImport.Proofs.Export.Holding
import ChatImport.Proofs.Export.Packing
import ChatImport.Proofs.Export.Reading
import ChatImport.Proofs.Files.Resolving
import ChatImport.Proofs.Files.Writing
import ChatImport.Proofs.Json.Admitting
import ChatImport.Proofs.Json.Building
import ChatImport.Proofs.Json.Lexing
import ChatImport.Proofs.Json.Numerals
import ChatImport.Proofs.Json.Omitting
import ChatImport.Proofs.Json.Reading
import ChatImport.Proofs.Json.Regular
import ChatImport.Proofs.Json.Sorting
import ChatImport.Proofs.Json.Spelling
import ChatImport.Proofs.Mattermost.Limits
import ChatImport.Proofs.Mattermost.Lines
import ChatImport.Proofs.Mattermost.Post
import ChatImport.Proofs.Mattermost.RoundTrip
import ChatImport.Proofs.Mattermost.Warnings
import ChatImport.Proofs.Running
import ChatImport.Proofs.Slack.Grammar
import ChatImport.Proofs.Slack.Timestamp
import ChatImport.Proofs.Summary
import ChatImport.Proofs.Table
import ChatImport.Proofs.Text.Cut
import ChatImport.Proofs.Text.Octets
import ChatImport.Proofs.Thread.Assembly
import ChatImport.Proofs.Thread.Claims
import ChatImport.Proofs.Thread.Entering
import ChatImport.Proofs.Thread.Grouping
import ChatImport.Proofs.Thread.Keys
import ChatImport.Proofs.Thread.Ledger
import ChatImport.Proofs.Thread.Neighbours
import ChatImport.Proofs.Thread.Operations
import ChatImport.Proofs.Thread.Order
import ChatImport.Proofs.Thread.Resumption
import ChatImport.Proofs.Thread.Store
import ChatImport.Proofs.Thread.Tally
import ChatImport.Proofs.Thread.Timeless
import ChatImport.Slack.Channel
import ChatImport.Slack.Message
import ChatImport.Slack.Timestamp
import ChatImport.Slack.User
import ChatImport.Summary
import ChatImport.Table
import ChatImport.Text.CaseTable
import ChatImport.Text.Cut
import ChatImport.Text.HiddenTable
import ChatImport.Text.Lossy
import ChatImport.Text.LowerCase
import ChatImport.Text.Octets
import ChatImport.Text.Quoted
import ChatImport.Text.Symbol
import ChatImport.Thread.Assembly
import ChatImport.Thread.Backend
import ChatImport.Thread.Ledger
import ChatImport.Thread.Store
