import TrustFederation.Address.Basic
import TrustFederation.Address.Host
import TrustFederation.Address.Ipv4
import TrustFederation.Address.Ipv6
import TrustFederation.Address.Path
import TrustFederation.Chain.Validation
import TrustFederation.Chain.Violation
import TrustFederation.Client.Endpoint
import TrustFederation.Client.Request
import TrustFederation.Client.Script
import TrustFederation.Client.ScriptedWeb
import TrustFederation.Client.Target
import TrustFederation.Client.Web
import TrustFederation.Codec.Base64Url
import TrustFederation.Codec.Hex
import TrustFederation.Codec.Percent
import TrustFederation.Command.Arguments
import TrustFederation.Command.Program
import TrustFederation.Crawl.Execute
import TrustFederation.Crawl.Loop
import TrustFederation.Crawl.Step
import TrustFederation.Crawl.Strategy
import TrustFederation.Digest.Hmac
import TrustFederation.Digest.Sha2
import TrustFederation.Domain.Direction
import TrustFederation.Domain.DirectionTable
import TrustFederation.Domain.Joining
import TrustFederation.Domain.JoiningTable
import TrustFederation.Domain.Name
import TrustFederation.Domain.Punycode
import TrustFederation.Domain.Table
import TrustFederation.Failure
import TrustFederation.Jose.Algorithm
import TrustFederation.Jose.Header
import TrustFederation.Jose.Key
import TrustFederation.Jose.RegisteredClaims
import TrustFederation.Jose.Token
import TrustFederation.Json.Basic
import TrustFederation.Json.Complaint
import TrustFederation.Json.Decode
import TrustFederation.Json.Doc
import TrustFederation.Json.Double
import TrustFederation.Json.Fault
import TrustFederation.Json.Printer
import TrustFederation.Json.Record
import TrustFederation.Json.Scan
import TrustFederation.Json.Shortest
import TrustFederation.Main
import TrustFederation.Proofs.Chain.Acceptance
import TrustFederation.Proofs.Chain.Reports
import TrustFederation.Proofs.Client.Addresses
import TrustFederation.Proofs.Client.Coherence
import TrustFederation.Proofs.Client.Destinations
import TrustFederation.Proofs.Client.Fallback
import TrustFederation.Proofs.Codec.Base64Url
import TrustFederation.Proofs.Codec.Misspelling
import TrustFederation.Proofs.Codec.Percent
import TrustFederation.Proofs.Codec.Spelling
import TrustFederation.Proofs.Crawl.Acceptance
import TrustFederation.Proofs.Crawl.Bookkeeping
import TrustFederation.Proofs.Crawl.Building
import TrustFederation.Proofs.Crawl.Chart
import TrustFederation.Proofs.Crawl.Comparisons
import TrustFederation.Proofs.Crawl.Confluence
import TrustFederation.Proofs.Crawl.Contents
import TrustFederation.Proofs.Crawl.Convergence
import TrustFederation.Proofs.Crawl.DepthFirst
import TrustFederation.Proofs.Crawl.Exploration
import TrustFederation.Proofs.Crawl.Hiding
import TrustFederation.Proofs.Crawl.History
import TrustFederation.Proofs.Crawl.Invariant
import TrustFederation.Proofs.Crawl.Likeness
import TrustFederation.Proofs.Crawl.Lineage
import TrustFederation.Proofs.Crawl.Publication
import TrustFederation.Proofs.Crawl.Schedules
import TrustFederation.Proofs.Crawl.Steps
import TrustFederation.Proofs.Crawl.Tables
import TrustFederation.Proofs.Crawl.Turns
import TrustFederation.Proofs.Federation.Completeness
import TrustFederation.Proofs.Federation.Coverage
import TrustFederation.Proofs.Federation.Honest
import TrustFederation.Proofs.Federation.Service
import TrustFederation.Proofs.Federation.Ways
import TrustFederation.Proofs.Jose.Registered
import TrustFederation.Proofs.Jose.Signatures
import TrustFederation.Proofs.Jose.Signing
import TrustFederation.Proofs.Jose.Verification
import TrustFederation.Proofs.Json.Documents
import TrustFederation.Proofs.Json.Numerals
import TrustFederation.Proofs.Json.Strings
import TrustFederation.Proofs.Json.Values
import TrustFederation.Proofs.Refresh.FollowUp
import TrustFederation.Proofs.Refresh.Scheduled
import TrustFederation.Proofs.Resolve.Answers
import TrustFederation.Proofs.Resolve.Candidate
import TrustFederation.Proofs.Resolve.Discovery
import TrustFederation.Proofs.Resolve.Expiry
import TrustFederation.Proofs.Resolve.Keys
import TrustFederation.Proofs.Resolve.Overtaken
import TrustFederation.Proofs.Resolve.Path
import TrustFederation.Proofs.Resolve.Soundness
import TrustFederation.Proofs.Sharing.Changes
import TrustFederation.Proofs.Sharing.Effects
import TrustFederation.Proofs.Sharing.Finality
import TrustFederation.Proofs.Sharing.Ownership
import TrustFederation.Proofs.Sharing.Program
import TrustFederation.Proofs.Sharing.System
import TrustFederation.Proofs.Statement.Payloads
import TrustFederation.Proofs.Statement.Signed
import TrustFederation.Proofs.Statement.Tokens
import TrustFederation.Proofs.Text.Bytes
import TrustFederation.Proofs.Text.Dictionaries
import TrustFederation.Proofs.Text.Folding
import TrustFederation.Proofs.Tree.Acyclic
import TrustFederation.Proofs.Tree.Attachment
import TrustFederation.Proofs.Tree.Descent
import TrustFederation.Proofs.Tree.Growth
import TrustFederation.Proofs.Tree.Keys
import TrustFederation.Proofs.Tree.Preorder
import TrustFederation.Proofs.Tree.Replay
import TrustFederation.Proofs.Tree.Retention
import TrustFederation.Proofs.Tree.Trail
import TrustFederation.Proofs.Tree.Versions
import TrustFederation.Proofs.Tree.Visits
import TrustFederation.Proofs.Tree.Window
import TrustFederation.Refresh.Scheduler
import TrustFederation.Refresh.Script
import TrustFederation.Refresh.State
import TrustFederation.Resolve.Answer
import TrustFederation.Resolve.Request
import TrustFederation.Resolve.Resolver
import TrustFederation.Settings.Basic
import TrustFederation.Settings.Environment
import TrustFederation.Settings.FieldPattern
import TrustFederation.Settings.LogFilter
import TrustFederation.Statement.Basic
import TrustFederation.Statement.Printer
import TrustFederation.Statement.Reader
import TrustFederation.Text.Alphanumeric
import TrustFederation.Text.Ascii
import TrustFederation.Text.Blank
import TrustFederation.Text.Canonical
import TrustFederation.Text.CanonicalTable
import TrustFederation.Text.CaseTable
import TrustFederation.Text.Dictionary
import TrustFederation.Text.Digits
import TrustFederation.Text.Graphic
import TrustFederation.Text.Images
import TrustFederation.Text.Lowercase
import TrustFederation.Text.Mark
import TrustFederation.Text.Quoted
import TrustFederation.Text.Ranges
import TrustFederation.Text.Split
import TrustFederation.Tree.NodeKey
import TrustFederation.Tree.Store
import TrustFederation.Tree.Walk
import TrustFederation.Word
