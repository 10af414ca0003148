import CodeAtlas.Context.Block
import CodeAtlas.Context.Truncate
import CodeAtlas.Data.Json
import CodeAtlas.Embed.Embedder
import CodeAtlas.Embed.Local
import CodeAtlas.Embed.Remote
import CodeAtlas.Embed.Similarity
import CodeAtlas.Extract.Extractor
import CodeAtlas.Extract.Language
import CodeAtlas.Files.Digest
import CodeAtlas.Files.System
import CodeAtlas.Ignore.Discover
import CodeAtlas.Indexer.Task
import CodeAtlas.Number.Fixed
import CodeAtlas.Number.Numeral
import CodeAtlas.Number.Shortest
import CodeAtlas.Resolve.Link
import CodeAtlas.Settings.Config
import CodeAtlas.Watch.Debounce
import CodeAtlas.Watch.Dispatch
import CodeAtlas.Proofs.Index.Sound
import CodeAtlas.Proofs.Resolve.Contents
import CodeAtlas.Proofs.Resolve.Order
import CodeAtlas.Proofs.Resolve.Preference
import CodeAtlas.Proofs.Resolve.External
import CodeAtlas.Proofs.Resolve.Relative
import CodeAtlas.Proofs.Indexer.Intake
import CodeAtlas.Proofs.Indexer.Failure
import CodeAtlas.Proofs.Indexer.Steps
import CodeAtlas.Proofs.Indexer.Activity
import CodeAtlas.Proofs.Indexer.Invariant
import CodeAtlas.Proofs.Indexer.Effects
import CodeAtlas.Proofs.Indexer.Isolation
import CodeAtlas.Proofs.Indexer.Definitions
import CodeAtlas.Proofs.Ignore.Walk
import CodeAtlas.Proofs.Ignore.Search
import CodeAtlas.Proofs.Ignore.Trouble
import CodeAtlas.Proofs.Indexer.Tracking
import CodeAtlas.Proofs.Indexer.Ending
import CodeAtlas.Proofs.Indexer.Edits
import CodeAtlas.Proofs.Watch.Flush
import CodeAtlas.Proofs.Offside.Outline
import CodeAtlas.Proofs.Indexer.References
import CodeAtlas.Proofs.Offside.Sites
import CodeAtlas.Proofs.Extract.Excerpts
import CodeAtlas.Proofs.Embed.Counts
import CodeAtlas.Proofs.Indexer.Prepared
import CodeAtlas.Proofs.Indexer.Tidy
import CodeAtlas.Proofs.Indexer.Report
import CodeAtlas.Proofs.Indexer.Dates
import CodeAtlas.Proofs.Indexer.History
import CodeAtlas.Proofs.Files.Deletion
import CodeAtlas.Proofs.Indexer.Deletion
import CodeAtlas.Proofs.Indexer.Directories
import CodeAtlas.Proofs.Indexer.Updates
import CodeAtlas.Proofs.Settings.Loading
import CodeAtlas.Proofs.Embed.Contract
import CodeAtlas.Proofs.Embed.Services
import CodeAtlas.Proofs.Embed.Sharing
import CodeAtlas.Proofs.Indexer.Attachments
import CodeAtlas.Proofs.Resolve.Scripts
import CodeAtlas.Proofs.Offside.Mentions
import CodeAtlas.Proofs.Offside.Hints
import CodeAtlas.Proofs.Offside.External
import CodeAtlas.Proofs.Offside.Variables
import CodeAtlas.Proofs.Script.Locals
import CodeAtlas.Proofs.Index.Innermost
import CodeAtlas.Proofs.Embed.Ranking
import CodeAtlas.Proofs.Embed.Entities
import CodeAtlas.Proofs.Ignore.Below
import CodeAtlas.Proofs.Ignore.Floating
import CodeAtlas.Proofs.Indexer.Scans
import CodeAtlas.Proofs.Embed.Batches
import CodeAtlas.Proofs.Context.Blocks
import CodeAtlas.Proofs.Source.Columns
import CodeAtlas.Proofs.Source.Offsets
import CodeAtlas.Proofs.Watch.Delivery
