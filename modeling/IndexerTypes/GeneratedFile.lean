/-! A rendered output file, not yet written. -/

namespace IndexerTypes

structure GeneratedFile where
  filename : String
  content : String
  deriving DecidableEq, Repr

end IndexerTypes
