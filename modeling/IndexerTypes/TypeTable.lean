/-! The fixed tables that take the type names of schemas and of contract ABIs to
TypeScript types. Big numbers of a schema travel as strings. -/

namespace IndexerTypes.TypeTable

/-- A schema scalar and the type of its values. -/
def scalars : List (String × String) := [
  ("ID", "string"),
  ("Boolean", "boolean"),
  ("Int", "number"),
  ("String", "string"),
  ("BigInt", "string"),
  ("BigDecimal", "string"),
  ("Bytes", "string")]

/-- An ABI type family, its width left out, and the type of its values. -/
def families : List (String × String) := [
  ("bool", "boolean"),
  ("address", "string"),
  ("string", "string"),
  ("int", "BigNumber"),
  ("uint", "BigNumber"),
  ("bytes", "Bytes")]

/-- What stands for a parameter whose family has no type. -/
def unknown : String := "unknown"

def scalarType? (scalar : String) : Option String := scalars.lookup scalar

/-- The width at the end is left out: `uint256` is of the family `uint`. -/
def family (type : String) : String :=
  String.ofList (type.toList.reverse.dropWhile Char.isDigit).reverse

def abiType? (type : String) : Option String := families.lookup (family type)

theorem family_append_digits (name : String) {digits : List Char}
    (hd : ∀ c ∈ digits, c.isDigit = true) :
    family (name ++ String.ofList digits) = family name := by
  have hr : ∀ c ∈ digits.reverse, c.isDigit = true := by simpa using hd
  simp [family, List.reverse_append, List.dropWhile_append_of_pos hr]

end IndexerTypes.TypeTable
