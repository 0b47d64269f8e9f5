import NestedFlow.Bound

/-! Parameters of polymorphic signatures and of extension definitions. -/

set_option autoImplicit false

namespace NestedFlow

/-- A kind of static argument: a type within a bound, a number below a limit, a text, a set of extensions, or a
list of such arguments. -/
inductive Param where
  | type (bound : Bound)
  | nat (upper : Option Int)
  | string
  | extensions
  | list (elem : Param)
  deriving DecidableEq, Inhabited

namespace Param

/-- Whether every argument that the second parameter accepts is accepted by the first. -/
def contains : Param → Param → Bool
  | .type bound, .type other => bound.contains other
  | .nat none, .nat _ => true
  | .nat (some upper), .nat (some other) => other ≤ upper
  | .string, .string => true
  | .extensions, .extensions => true
  | .list elem, .list other => elem.contains other
  | _, _ => false

def text : Param → String
  | .type bound => "Type(" ++ bound.text ++ ")"
  | .nat none => "Nat"
  | .nat (some upper) => "Nat(<" ++ toString upper ++ ")"
  | .string => "String"
  | .extensions => "Extensions"
  | .list elem => "List(" ++ elem.text ++ ")"

end Param

end NestedFlow
