import LoxScan.Report.Reporter

/-!
# Scan configurations

## Main Definitions

* `ScanConfig` — where errors go when a scan is not told, and whether they are refused
* `Ambient` — the configuration and the accumulator that are current in a thread
-/

namespace LoxScan

/-- A reporter and the name it is known by. -/
structure NamedReporter where
  name : String
  reporter : Reporter

/-- A configuration: the reporter of scans that are given none, and whether a
scan that reports errors fails. -/
structure ScanConfig where
  reporter : Option NamedReporter
  refuseErrors : Bool

/-- The configuration before any other is set. -/
def ScanConfig.initial : ScanConfig := { reporter := none, refuseErrors := false }

/-- A configuration says what the initial one says. -/
def ScanConfig.isInitial (config : ScanConfig) : Bool :=
  config.reporter.isNone && !config.refuseErrors

/-- What is current in a thread: its configuration, and the handle of its
accumulator if scans are being measured.  Each thread has a number of its own. -/
structure Ambient where
  config : ScanConfig
  accumulator : Option Nat
  thread : Nat

/-- What is current when a thread begins. -/
def Ambient.ofThread (thread : Nat) : Ambient :=
  { config := ScanConfig.initial, accumulator := none, thread := thread }

end LoxScan
