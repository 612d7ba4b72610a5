import PerfGate.Load.Run
import PerfGate.Report.Units

/-!
# Load results as a JSON document

A document names the server and lists the results of every scenario by concurrency level. Numbers
are rounded to the places that the other formats show.
-/

namespace PerfGate.Report

/-- A latency in milliseconds, to three places. -/
def roundedMillis (ns : Nat) : Float :=
  roundTo 3 (Latency.toMillis ns)

/-- The record of the latencies of a result. -/
def latencyJson (s : Latency.Summary) : Json :=
  .record
    [("p50", .number (roundedMillis s.p50)),
     ("p90", .number (roundedMillis s.p90)),
     ("p95", .number (roundedMillis s.p95)),
     ("p99", .number (roundedMillis s.p99)),
     ("min", .number (roundedMillis s.least)),
     ("max", .number (roundedMillis s.greatest))]

/-- The record of a result. -/
def resultJson (clients : Nat) (r : Load.Result) : Json :=
  .record
    [("clients", .count clients),
     ("requests", .count r.sampleCount),
     ("rps", .number (roundTo 1 r.throughput)),
     ("latency_ms", latencyJson r.latency),
     ("errors", .count r.errorCount)]

/-- The document of the scenarios that were run against a server, in the order of the runs. -/
def sweepJson (server : String) (scenarios : List (String × Load.Results)) : Json :=
  .record
    [("server", .text server),
     ("scenarios", .record (scenarios.map fun s =>
       (s.1, .list (s.2.toList.map fun r => resultJson r.1 r.2))))]

end PerfGate.Report
