import Telemetry.Trace.Context

/-!
# Propagating traces

A consumer opens a span below the one that a message names, and what it publishes names its own span
in turn.  Both need a propagator, and the second also needs spans to be recorded.
-/

namespace Telemetry
namespace Trace

/-- What is set up for tracing. -/
structure Setup where
  /-- Whether contexts are read from and written to headers. -/
  propagates : Bool
  /-- Whether spans are recorded. -/
  records : Bool
  deriving DecidableEq, Repr

namespace Setup

/-- The context of a message with the given headers. -/
def extract? (setup : Setup) (headers : Headers) : Option Context :=
  if setup.propagates then Trace.extract? headers else none

/-- The headers of what is published within a new span for a message, which may have no headers. -/
def inject (setup : Setup) (received : Option Headers) (trace span : Nat) : Headers :=
  if setup.propagates && setup.records then
    (newSpan (received.bind setup.extract?) trace span).inject
  else
    []

end Setup
end Trace
end Telemetry
