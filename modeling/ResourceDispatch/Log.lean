namespace ResourceDispatch.Log

inductive Level where
  | error
  | warn
  | info
  | debug
  | trace
deriving DecidableEq, Repr

namespace Level

def name : Level → String
  | error => "ERROR"
  | warn => "WARN"
  | info => "INFO"
  | debug => "DEBUG"
  | trace => "TRACE"

end Level

structure Record where
  level : Level
  target : String
  message : String
deriving DecidableEq, Repr

end ResourceDispatch.Log
