import MarketFeed.Main
import MarketFeed.Proofs.Pairs
import MarketFeed.Proofs.Venue.Refusal
import MarketFeed.Proofs.Json.Grammar
import MarketFeed.Proofs.Json.Scan
import MarketFeed.Proofs.Json.Skip
import MarketFeed.Proofs.Json.Unique
import MarketFeed.Proofs.Frame
import MarketFeed.Proofs.Venue.Batched
import MarketFeed.Proofs.Json.Read
import MarketFeed.Proofs.Json.Record
import MarketFeed.Proofs.Plan.Load
import MarketFeed.Proofs.Json.Splice
import MarketFeed.Proofs.Splice
import MarketFeed.Proofs.Venue.Single
import MarketFeed.Proofs.Output
import MarketFeed.Proofs.Plan.Agreement
import MarketFeed.Proofs.Venue.Distinct
import MarketFeed.Proofs.Venue.Direction
import MarketFeed.Proofs.Run.Failure
import MarketFeed.Proofs.Run.Logging
import MarketFeed.Proofs.Venue.Collision
import MarketFeed.Proofs.Verbatim
import MarketFeed.Proofs.Venue.Incremental
import MarketFeed.Proofs.Venue.Verbatim
import MarketFeed.Proofs.Plan.Skipped
import MarketFeed.Proofs.Plan.Independence
import MarketFeed.Proofs.Vocabulary.Encoding
import MarketFeed.Proofs.Plan.Truncated
import MarketFeed.Proofs.Arguments
import MarketFeed.Proofs.Pairs.Calls
import MarketFeed.Proofs.Venue.Instrument
import MarketFeed.Proofs.Json.Compact
import MarketFeed.Proofs.Vocabulary.Tags
