import TypedChannel.Main
import TypedChannel.Proofs.Buffered.Seamless
import TypedChannel.Proofs.Buffered.Terminated
import TypedChannel.Proofs.Channel.Correspondence
import TypedChannel.Proofs.Channel.Counters
import TypedChannel.Proofs.Channel.Deadlines
import TypedChannel.Proofs.Channel.FullReads
import TypedChannel.Proofs.Channel.Opening
import TypedChannel.Proofs.Channel.Tracing
import TypedChannel.Proofs.Channel.Validation
import TypedChannel.Proofs.Diagnostics.Families
import TypedChannel.Proofs.Echo.Arrivals
import TypedChannel.Proofs.Echo.Datagrams
import TypedChannel.Proofs.Echo.Stream
import TypedChannel.Proofs.Grammar
import TypedChannel.Proofs.Host.Capacity
import TypedChannel.Proofs.Host.Environment
import TypedChannel.Proofs.Host.Holders
import TypedChannel.Proofs.Host.Opening
import TypedChannel.Proofs.Host.Waiting
import TypedChannel.Proofs.Readiness
import TypedChannel.Proofs.RoundTrip.Coalesced
import TypedChannel.Proofs.RoundTrip.Datagrams
import TypedChannel.Proofs.RoundTrip.Elementwise
import TypedChannel.Proofs.RoundTrip.FirstDatagram
import TypedChannel.Proofs.RoundTrip.Leftmost
import TypedChannel.Proofs.RoundTrip.Prefixed
import TypedChannel.Proofs.RoundTrip.Stream
import TypedChannel.Proofs.Rounding
import TypedChannel.Proofs.Transport.Ending
import TypedChannel.Proofs.Transport.Outgoing
import TypedChannel.Proofs.Transport.Progress
import TypedChannel.Proofs.Transport.Stamped
import TypedChannel.Scenario.Callers
import TypedChannel.Scenario.Capacity
import TypedChannel.Scenario.Guards
import TypedChannel.Scenario.Handles
import TypedChannel.Scenario.Listening
import TypedChannel.Scenario.Report
import TypedChannel.Scenario.Respondent
