/-! Numbers that documents hold. -/

namespace IndexerTypes

inductive Number where
  | natural (n : Nat)
  /-- The number `-n`. -/
  | negative (n : Nat)
  | real (x : Float)

end IndexerTypes
