/-!
# Log lines

What the bridge tells its operator: a level, a fixed message and named values.
-/

namespace RoomBridge

inductive LogLevel
  | debug
  | info
  | warn
  | error
  deriving DecidableEq, Repr

def LogLevel.label : LogLevel → String
  | .debug => "DEBUG"
  | .info => "INFO"
  | .warn => "WARN"
  | .error => "ERROR"

structure LogLine where
  level : LogLevel
  message : String
  fields : List (String × String)
  deriving DecidableEq, Repr

end RoomBridge
