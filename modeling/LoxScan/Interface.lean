/-!
# The public interface

The names under which the program publishes what it offers, as it lists them.
-/

namespace LoxScan

/-- The published names in the order of their code points. -/
def publicNames : List String :=
  ["ErrorCollector", "ErrorReporter", "KEYWORDS", "LoggingReporter", "LoxLexError",
    "ScanAccumulator", "ScanConfig", "ScanError", "ScanErrorKind", "ScanFailedError", "Scanner",
    "TeeReporter", "Token", "TokenType", "__version__", "get_scan_accumulator",
    "get_scan_config", "profiled_scan", "reset_scan_config", "scan", "scan_config_context",
    "set_scan_config"]

end LoxScan
