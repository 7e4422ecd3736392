/-! Notices: what a run tells its user besides its result. -/

namespace IndexerTypes

inductive Level where
  | debug
  | info
  | warning
  deriving DecidableEq, Repr

/-- The word at the head of a printed line. -/
def Level.tag : Level → String
  | .debug => "DEBG"
  | .info => "INFO"
  | .warning => "WARN"

structure Notice where
  level : Level
  message : String
  /-- Names and values that go with the message. -/
  fields : List (String × String)
  deriving DecidableEq, Repr

end IndexerTypes
