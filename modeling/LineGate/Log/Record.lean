import LineGate.Value.Basic

/-! # Log records

What the program does is reported by log records. A record has a level and the name of the logger
that wrote it; all loggers are descendants of one base logger. A record may carry a **context**:
named values that a structured log shows beside the message.
-/

namespace LineGate

namespace Log

/-- **Levels** of log records. -/
inductive Level where
  | debug
  | info
  | warning
  | error
  | critical
  deriving DecidableEq, Repr

namespace Level

/-- The name of a level. -/
def name : Level → String
  | .debug => "DEBUG"
  | .info => "INFO"
  | .warning => "WARNING"
  | .error => "ERROR"
  | .critical => "CRITICAL"

/-- The rank of a level; thresholds are given as ranks. -/
def rank : Level → Int
  | .debug => 10
  | .info => 20
  | .warning => 30
  | .error => 40
  | .critical => 50

end Level

/-- **Log records**. -/
structure Record where
  level : Level
  logger : String
  message : String
  /-- Named values that go with the message. -/
  context : List (String × Value) := []

/-- The name of the base logger. -/
def baseLogger : String := "ifdef"

/-- The full name of a logger: names outside of the base logger's family are put into it. -/
def loggerName (name : String) : String :=
  if name.isEmpty ∨ name = baseLogger then baseLogger
  else if (baseLogger ++ ".").toList.isPrefixOf name.toList then name
  else baseLogger ++ "." ++ name

/-- The name of a child of a logger. -/
def childLogger (logger suffix : String) : String := logger ++ "." ++ suffix

end Log

end LineGate
