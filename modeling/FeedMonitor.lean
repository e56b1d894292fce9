import FeedMonitor.Main
import FeedMonitor.Record.Reading
import FeedMonitor.Proofs.Agent.Reporting
import FeedMonitor.Proofs.Dedup.Isolation
import FeedMonitor.Proofs.Dedup.Marker
import FeedMonitor.Proofs.Delivery.Barrier
import FeedMonitor.Proofs.Delivery.Completion
import FeedMonitor.Proofs.Delivery.Draining
import FeedMonitor.Proofs.Emission.Merging
import FeedMonitor.Proofs.Emission.Shutdown
import FeedMonitor.Proofs.Feed.Agreement
import FeedMonitor.Proofs.Feed.Latest
import FeedMonitor.Proofs.Feed.Notice
import FeedMonitor.Proofs.Feed.Reconnection
import FeedMonitor.Proofs.Feed.Resubscription
import FeedMonitor.Proofs.Identity.Restart
import FeedMonitor.Proofs.Json.Traversal
import FeedMonitor.Proofs.Launch.Room
import FeedMonitor.Proofs.Delivery.Lockstep
import FeedMonitor.Proofs.Dedup.Eviction
import FeedMonitor.Proofs.Record.Payload
import FeedMonitor.Proofs.Feed.Exchange
import FeedMonitor.Proofs.Collector.HandOver
import FeedMonitor.Proofs.Emission.Snapshot
import FeedMonitor.Proofs.Feed.Doubling
import FeedMonitor.Proofs.Record.Fitting
import FeedMonitor.Proofs.Record.Relay
import FeedMonitor.Proofs.Feed.Timestamp
import FeedMonitor.Proofs.Settings.Variables
import FeedMonitor.Proofs.Correlation
import FeedMonitor.Proofs.Feed.Symbols
import FeedMonitor.Proofs.Settings.Route
