import LineGate.Log.Record
import LineGate.Value.Notation

/-! # Log handlers

All loggers write through one handler, which drops records below a threshold and writes the others
as lines, in plain text or as JSON objects. The handler is set up when it is first needed; setting
it up again changes its mode and its threshold, and its sink only if a sink is named.
-/

namespace LineGate

namespace Log

/-- The version that structured records carry. -/
def version : String := "1.0.0"

/-- **Handlers** that write to sinks of type `κ`. -/
structure Handler (κ : Type) where
  /-- Write JSON objects in place of plain text. -/
  json : Bool
  /-- The rank below which records are dropped. -/
  threshold : Int
  sink : κ

/-- A record as a line of plain text. -/
def plainLine (r : Record) : String := r.level.name ++ ": " ++ r.message ++ "\n"

/-- A record as a JSON object on one line, with a time stamp. -/
def jsonLine (stamp : String) (r : Record) : String :=
  let fields : List (String × Value) :=
    [("ts", .str stamp), ("level", .str r.level.name), ("logger", .str r.logger),
      ("msg", .str r.message), ("version", .str version)]
  let context := if r.context.isEmpty then [] else [("ctx", Value.dict r.context)]
  (Value.dict (fields ++ context)).json ++ "\n"

namespace Handler

variable {κ : Type}

/-- The rank that applies when a threshold of zero leaves the choice open. -/
def fallbackThreshold : Int := Level.warning.rank

/-- **Set up** the handler, given the one in use so far. -/
def setUp (current : Option (Handler κ)) (standard : κ) (json : Bool) (threshold : Int)
    (sink : Option κ) : Handler κ :=
  { json, threshold, sink := sink.getD ((current.map (·.sink)).getD standard) }

/-- Whether the handler writes records of a level. -/
def accepts (h : Handler κ) (level : Level) : Bool :=
  (if h.threshold = 0 then fallbackThreshold else h.threshold) ≤ level.rank

/-- **The line** that the handler writes for a record, if it does not drop the record. -/
def line? (h : Handler κ) (stamp : String) (r : Record) : Option String :=
  if h.accepts r.level then some (if h.json then jsonLine stamp r else plainLine r) else none

end Handler

/-- The line for a record while no handler is set up: the bare message of a warning or of something
worse. -/
def bareLine? (r : Record) : Option String :=
  if Level.warning.rank ≤ r.level.rank then some (r.message ++ "\n") else none

/-- **Factories** hand out loggers. A factory sets up the handler once, when it hands out its first
logger. -/
structure Factory (κ : Type) where
  json : Bool := false
  threshold : Int := Level.info.rank
  sink : Option κ := none
  applied : Bool := false

/-- Hand out a logger: its name, the factory afterwards and the handler afterwards. -/
def Factory.logger {κ : Type} (f : Factory κ) (current : Option (Handler κ)) (standard : κ)
    (name : String) : String × Factory κ × Option (Handler κ) :=
  let handler :=
    if f.applied then current
    else some (Handler.setUp current standard f.json f.threshold f.sink)
  (loggerName name, { f with applied := true }, handler)

end Log

end LineGate
