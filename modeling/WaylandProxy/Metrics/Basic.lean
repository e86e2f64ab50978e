/-
# Metrics.Basic -- what one session counts

The counters and the histogram that the router and the passes of a session share, and
their exposition as text: each metric in a fixed order, each line ended by a line feed.
-/
import WaylandProxy.Metrics.Counter
import WaylandProxy.Metrics.Histogram

namespace WaylandProxy

set_option autoImplicit false

structure Metrics where
  /-- Messages that went through the chain, by direction. -/
  routed : Counter
  /-- Messages that were not forwarded, by direction. -/
  dropped : Counter
  /-- Malformed messages and lines, by who met them. -/
  protocolErrors : Counter
  /-- Sync callbacks that could not be followed. -/
  syncOverflows : Counter
  /-- Synthesized events by kind. -/
  synthesized : Counter
  /-- Failed writes. -/
  transportErrors : Counter
  /-- Time spent in the chain, by direction. -/
  routeDuration : Histogram
  deriving DecidableEq, Repr

namespace Metrics

def empty : Metrics :=
  ⟨.empty, .empty, .empty, .empty, .empty, .empty, .empty⟩

/-- The metrics with the counts of the traffic, which only the router keeps, of others. -/
def withTraffic (m others : Metrics) : Metrics :=
  { m with
    routed := others.routed
    dropped := others.dropped
    routeDuration := others.routeDuration }

def lines (m : Metrics) : List String :=
  m.routed.render "wlfuzz_messages_routed_total" ++
    m.dropped.render "wlfuzz_messages_dropped_total" ++
    m.protocolErrors.render "wlfuzz_protocol_errors_total" ++
    m.syncOverflows.render "wlfuzz_sync_overflows_total" ++
    m.synthesized.render "wlfuzz_synthesized_total" ++
    m.transportErrors.render "wlfuzz_transport_errors_total" ++
    m.routeDuration.render "wlfuzz_route_duration_micros"

def render (m : Metrics) : String :=
  String.join (m.lines.map (· ++ "\n"))

end Metrics

end WaylandProxy
