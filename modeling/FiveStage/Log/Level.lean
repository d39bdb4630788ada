/-!
# Log levels

How important an event is, from `error` down to `trace`.
-/

namespace FiveStage.Log

inductive Level where
  | error
  | warn
  | info
  | debug
  | trace
  deriving DecidableEq, Repr

namespace Level

def detail : Level → Nat
  | error => 1
  | warn => 2
  | info => 3
  | debug => 4
  | trace => 5

def label : Level → String
  | error => "ERROR"
  | warn => "WARN"
  | info => "INFO"
  | debug => "DEBUG"
  | trace => "TRACE"

def shownAt (level threshold : Level) : Bool := level.detail ≤ threshold.detail

end Level

end FiveStage.Log
