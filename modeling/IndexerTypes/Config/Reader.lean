import IndexerTypes.Config.Basic
import IndexerTypes.Json.Reader

/-! Configurations from JSON documents. A record is an object, or the list of its fields in
their order. A key that matters stands at most once; other keys are ignored with whatever
they hold. -/

namespace IndexerTypes.Config

/-- The value of a key, if there is one; a repeated key is refused. -/
def single? (members : List (String × Json)) (key : String) : Option (Option Json) :=
  match members.filter fun m => m.1 = key with
  | [] => some none
  | [(_, v)] => some (some v)
  | _ => none

def required? (members : List (String × Json)) (key : String) : Option Json :=
  (single? members key).join

def readText? : Json → Option String
  | .text s => some s
  | _ => none

/-- A whole number of 64 bits. -/
def readWord? : Json → Option UInt64
  | .number (.natural n) => if n < Nat.pow 2 64 then some (UInt64.ofNat n) else none
  | _ => none

def readKind? : Json → Option ChainKind
  | .text s => if s = "evm" then some .evm else none
  | .object [(key, .null)] => if key = "evm" then some .evm else none
  | _ => none

def readStartBlock? : Json → Option (Option UInt64)
  | .null => some none
  | v => (readWord? v).map some

def readList? (item? : Json → Option α) : Json → Option (List α)
  | .array items => items.mapM item?
  | _ => none

/-- Reads the value of a key, or takes the default if the key is missing. -/
def readOr? (value : α) (read? : Json → Option α) : Option Json → Option α
  | none => some value
  | some v => read? v

def networkOfMembers? (members : List (String × Json)) : Option Network := do
  let kind ← readOr? .evm readKind? (← single? members "kind")
  let name ← readText? (← required? members "name")
  let chainId ← readWord? (← required? members "chainId")
  let rpcUrl ← readText? (← required? members "rpcUrl")
  pure ⟨kind, name, chainId, rpcUrl⟩

def readNetwork? : Json → Option Network
  | .object members => networkOfMembers? members
  | .array [kind, name, chainId, rpcUrl] => do
    pure ⟨← readKind? kind, ← readText? name, ← readWord? chainId, ← readText? rpcUrl⟩
  | _ => none

def sourceOfMembers? (members : List (String × Json)) : Option Source := do
  let kind ← readOr? .evm readKind? (← single? members "kind")
  let name ← readText? (← required? members "name")
  let network ← readText? (← required? members "network")
  let abi ← readText? (← required? members "abi")
  let address ← readText? (← required? members "address")
  let startBlock ← readOr? none readStartBlock? (← single? members "startBlock")
  pure ⟨kind, name, network, abi, address, startBlock⟩

def readSource? : Json → Option Source
  | .object members => sourceOfMembers? members
  | .array [kind, name, network, abi, address] => do
    pure ⟨← readKind? kind, ← readText? name, ← readText? network, ← readText? abi,
      ← readText? address, none⟩
  | .array [kind, name, network, abi, address, startBlock] => do
    pure ⟨← readKind? kind, ← readText? name, ← readText? network, ← readText? abi,
      ← readText? address, ← readStartBlock? startBlock⟩
  | _ => none

def ofMembers? (members : List (String × Json)) : Option Config := do
  let networks ← readOr? [] (readList? readNetwork?) (← single? members "networks")
  let sources ← readOr? [] (readList? readSource?) (← single? members "sources")
  pure ⟨networks, sources⟩

def ofDocument? : Json → Option Config
  | .object members => ofMembers? members
  | .array [] => some ⟨[], []⟩
  | .array [networks] => do pure ⟨← readList? readNetwork? networks, []⟩
  | .array [networks, sources] => do
    pure ⟨← readList? readNetwork? networks, ← readList? readSource? sources⟩
  | _ => none

/-- The configuration in a text, checked. -/
def read (text : String) : Except Flaw Config :=
  match (Json.read? text).bind ofDocument? with
  | none => .error (.malformed "not a project configuration")
  | some c =>
    match c.check with
    | .error flaw => .error flaw
    | .ok _ => .ok c

end IndexerTypes.Config
