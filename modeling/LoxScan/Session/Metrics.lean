/-!
# Metrics of scans

## Main Definitions

* `Metrics` — totals over the scans that an accumulator has recorded
* `Metrics.record` — the totals after one more scan
-/

namespace LoxScan

/-- Totals over recorded scans. -/
structure Metrics where
  sourceLength : Int
  tokenCount : Int
  errorCount : Int
  scanCalls : Int
deriving DecidableEq, Repr

namespace Metrics

/-- The totals over no scans. -/
def zero : Metrics := { sourceLength := 0, tokenCount := 0, errorCount := 0, scanCalls := 0 }

/-- The totals after one more scan. -/
def record (metrics : Metrics) (sourceLength tokenCount errorCount : Int) : Metrics where
  sourceLength := metrics.sourceLength + sourceLength
  tokenCount := metrics.tokenCount + tokenCount
  errorCount := metrics.errorCount + errorCount
  scanCalls := metrics.scanCalls + 1

end Metrics

end LoxScan
