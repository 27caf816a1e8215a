import LineTally.Flags
import LineTally.Json.Parser
import LineTally.Main
import LineTally.Meeting
import LineTally.Proofs.Queue.Calls
import LineTally.Session
import LineTally.Proofs.Queue.Consistency
import LineTally.Proofs.Reader
import LineTally.Proofs.Threads
import LineTally.Proofs.Consumer
import LineTally.Proofs.Session.Calls
import LineTally.Proofs.Session.Order
import LineTally.Proofs.Session.Rest
import LineTally.Proofs.Session.Stranding
import LineTally.Proofs.Session.Release
import LineTally.Proofs.Queue.Wakeups
import LineTally.Proofs.Queue.Weight
import LineTally.Proofs.Queue.Release
import LineTally.Proofs.Restraint
import LineTally.Proofs.Scan.Calls
import LineTally.Proofs.Scan.Shutdown
import LineTally.Proofs.Rendezvous
import LineTally.Proofs.Meeting
import LineTally.Proofs.Scan.Barrier
import LineTally.Proofs.Tally
import LineTally.Proofs.Scan.Lines
import LineTally.Proofs.Scan.Outcome
import LineTally.Proofs.Scan.Progress
import LineTally.Proofs.Scan.Weight
import LineTally.Proofs.Scan.Ending
import LineTally.Proofs.Scan.Counting
import LineTally.Proofs.Scan.Exactness
import LineTally.Proofs.Scan.Events
import LineTally.Proofs.Scan.Asking
import LineTally.Proofs.Scan.Aggregation
import LineTally.Proofs.Scan.Leaving
import LineTally.Proofs.Scan.Leftovers
import LineTally.Proofs.Scan.Bounds
import LineTally.Proofs.Scan.Notice
import LineTally.Proofs.Scan.Abandonment
import LineTally.Proofs.Scan.Failures
import LineTally.Proofs.Lines.Chunks
import LineTally.Proofs.Json.RoundTrip
import LineTally.Proofs.Report
import LineTally.Proofs.Settings
import LineTally.Proofs.Command.Answers
import LineTally.Proofs.Caseless
import LineTally.Proofs.Session.Reading
import LineTally.Proofs.Session.Consuming
import LineTally.Proofs.Lines.Decoding
import LineTally.Proofs.Session.Stopping
import LineTally.Proofs.Scan.Latency
import LineTally.Proofs.Scan.Arithmetic
import LineTally.Proofs.Session.Service
import LineTally.Proofs.Slots
import LineTally.Proofs.Folds
import LineTally.Proofs.Toml.Readers
import LineTally.Proofs.Toml.Ways
import LineTally.Proofs.Overrides
import LineTally.Proofs.Scan.Refusal
