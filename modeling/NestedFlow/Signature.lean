import NestedFlow.Ty

/-! Signatures of operations and functions, and their polymorphic forms. -/

set_option autoImplicit false

namespace NestedFlow

/-- Types consumed, types produced, and the extensions required to run. -/
structure Signature where
  input : Row
  output : Row
  reqs : ExtensionSet
  deriving DecidableEq, Inhabited

namespace Signature

def ofRows (input output : Row) : Signature := ⟨input, output, ∅⟩

/-- The same row in and out. -/
def endo (row : Row) (reqs : ExtensionSet) : Signature := ⟨row, row, reqs⟩

/-- A signature is also the type of function values. -/
def toTy (signature : Signature) : Ty := .function signature.input signature.output signature.reqs

def text (signature : Signature) : String := signature.toTy.text

end Signature

/-- A signature generalized over parameters, to which its variables refer by position. -/
structure Scheme where
  params : List Param
  body : Signature
  deriving DecidableEq, Inhabited

namespace Scheme

def mono (body : Signature) : Scheme := ⟨[], body⟩

def text (scheme : Scheme) : String :=
  if scheme.params.isEmpty then scheme.body.text
  else "forall " ++ ", ".intercalate (scheme.params.map Param.text) ++ ". " ++ scheme.body.text

end Scheme

end NestedFlow
