/-!
# Log records

## Main Definitions

* `LogRecord` — a message logged at a level by a named logger
* `qualifiedName` — the full name of a logger
* `LogRecord.line` — a record as a line of text
-/

namespace LoxScan

/-- The levels at which messages are logged. -/
inductive LogLevel where
  | debug
  | warning
deriving DecidableEq, Repr

/-- The name under which a level is written out. -/
def LogLevel.name : LogLevel → String
  | debug => "DEBUG"
  | warning => "WARNING"

/-- A logged message. -/
structure LogRecord where
  level : LogLevel
  logger : String
  message : String
deriving DecidableEq, Repr

/-- A record as a line of text, without its level and without a line feed. -/
def LogRecord.line (record : LogRecord) : String :=
  record.logger ++ ": " ++ record.message

/-- The logger above all loggers of the program. -/
def rootLogger : String := "loxlex"

/-- The full name of a logger: names outside the program's own are put below
the root logger. -/
def qualifiedName (name : String) : String :=
  if name = rootLogger ∨ (rootLogger ++ ".").toList.isPrefixOf name.toList then name
  else rootLogger ++ "." ++ name

/-- The logger that scanners write to. -/
def scannerLogger : String := "loxlex.lexer.core"

/-- The logger that reporters write to. -/
def reporterLogger : String := "loxlex.reporting"

/-- The logger that the command line writes to. -/
def commandLogger : String := "loxlex.__main__"

end LoxScan
