import IndexerTypes.Text.Blank

/-! Events of a contract ABI and their parameters, first as they are declared, then with a
name for every parameter and with tuples taken apart. -/

namespace IndexerTypes.Abi

/-- A parameter as a document declares it. -/
inductive Declared where
  | mk (name type : String) (components : List Declared)

/-- A parameter of an event. -/
inductive Param where
  | tuple (name : String) (components : List Param)
  /-- A parameter of any other type, arrays of tuples among them. -/
  | value (name type : String)

structure Event where
  name : String
  inputs : List Param

def commaJoined (types : List String) : String := ",".intercalate types

/-- What follows the word `tuple` in a type that starts with it. -/
def afterTuple? (type : String) : Option String :=
  ("tuple".toList.isPrefixOf? type.toList).map String.ofList

mutual

/-- The type in a signature: a leading `tuple` stands for the types of the components. -/
def Declared.canonicalType : Declared → String
  | .mk _ type components =>
    match afterTuple? type with
    | some suffix => "(" ++ commaJoined (canonicalTypes components) ++ ")" ++ suffix
    | none => type

def canonicalTypes : List Declared → List String
  | [] => []
  | d :: rest => d.canonicalType :: canonicalTypes rest

end

/-- A parameter without a name is named after its position. -/
def nameAt (index : Nat) (name : String) : String :=
  if name.isEmpty then "param" ++ toString index else name

mutual

def Param.ofDeclared (index : Nat) : Declared → Param
  | .mk name type components =>
    if type = "tuple" then .tuple (nameAt index name) (paramsFrom 0 components)
    else .value (nameAt index name) (Declared.mk name type components).canonicalType

/-- The parameters that stand at the positions from `index` on. -/
def paramsFrom (index : Nat) : List Declared → List Param
  | [] => []
  | d :: rest => Param.ofDeclared index d :: paramsFrom (index + 1) rest

end

def Param.name : Param → String
  | .tuple name _ => name
  | .value name _ => name

mutual

def Param.signatureType : Param → String
  | .tuple _ components => "(" ++ commaJoined (signatureTypes components) ++ ")"
  | .value _ type => type

def signatureTypes : List Param → List String
  | [] => []
  | p :: rest => p.signatureType :: signatureTypes rest

end

/-- The type that decides how a parameter is mapped; all arrays count as one type. -/
def Param.baseType : Param → String
  | .tuple .. => "tuple"
  | .value _ type => if type.toList.getLast? = some ']' then "array" else type

/-- For instance `Transfer(address,address,uint256)`. -/
def Event.signature (e : Event) : String :=
  e.name ++ "(" ++ commaJoined (signatureTypes e.inputs) ++ ")"

/-- The name in a signature: what stands before the first parenthesis, without blanks. -/
def baseName (signature : String) : String :=
  String.ofList (Text.trim (signature.toList.takeWhile (· ≠ '(')))

end IndexerTypes.Abi
