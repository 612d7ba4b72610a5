import PerfGate.Load.Run

/-!
# Load results as comma-separated values

One line per result. Throughput has one decimal, latencies are in milliseconds with three.
-/

namespace PerfGate.Report

/-- The names of the columns. -/
def csvHeading : String :=
  "scenario,clients,requests,rps,p50_ms,p90_ms,p95_ms,p99_ms,min_ms,max_ms,errors"

/-- A latency in milliseconds. -/
def csvLatency (ns : Nat) : String :=
  Decimal.fixed 3 (Latency.toMillis ns)

/-- The line of a load result. -/
def csvRow (scenario : String) (clients : Nat) (r : Load.Result) : String :=
  String.intercalate ","
    [scenario, toString clients, toString r.sampleCount, Decimal.fixed 1 r.throughput,
     csvLatency r.latency.p50, csvLatency r.latency.p90, csvLatency r.latency.p95,
     csvLatency r.latency.p99, csvLatency r.latency.least, csvLatency r.latency.greatest,
     toString r.errorCount]

end PerfGate.Report
