import InlineMarkers.Text.Blank

/-!
# How much is logged

Warnings always reach the log; with debugging on, everything does.  The log has
one handler, which is made when it is first needed, and debugging opens every
handler there is.
-/

namespace InlineMarkers

/-- The least urgent messages that are let through. -/
inductive LogLevel where
  | debug
  | warning
  deriving DecidableEq, Repr

def LogLevel.name : LogLevel → String
  | debug => "DEBUG"
  | warning => "WARNING"

/-- The level of the log and of each of its handlers. -/
structure Logging where
  level : LogLevel
  handlers : List LogLevel
  deriving DecidableEq, Repr

namespace Logging

def initial : Logging :=
  ⟨.warning, []⟩

/-- The log with a handler of a level, if it had none. -/
def withHandler (logging : Logging) (level : LogLevel) : Logging :=
  if logging.handlers.isEmpty then { logging with handlers := [level] } else logging

def enableDebug (logging : Logging) : Logging :=
  withHandler ⟨.debug, logging.handlers.map fun _ => .debug⟩ .debug

/-- Whether the environment asks for debugging: anything but nothing or a zero. -/
def asksForDebug (environment : Option (List Char)) : Bool :=
  let wish := Text.trim (environment.getD [])
  !(wish.isEmpty || wish == ['0'])

/-- The log set up for a program that is asked to be verbose or not. -/
def configure (logging : Logging) (verbose : Bool) (environment : Option (List Char)) :
    Logging :=
  if verbose || asksForDebug environment then logging.enableDebug
  else { logging with level := .warning }.withHandler .warning

end Logging

end InlineMarkers
