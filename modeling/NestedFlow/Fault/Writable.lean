import NestedFlow.Op
import NestedFlow.Text.Digit

/-! Whether the numbers in the texts of parameters, types and arguments have few enough digits to be written. -/

set_option autoImplicit false

namespace NestedFlow

def Param.isWritable : Param → Bool
  | .nat (some upper) => Text.isWritable upper
  | .list elem => elem.isWritable
  | _ => true

mutual

def Ty.isWritable : Ty → Bool
  | .custom _ _ args _ _ => Arg.areWritable args
  | .sum variants => Row.areWritable variants
  | .tuple row => Row.isWritable row
  | .function input output _ => Row.isWritable input && Row.isWritable output
  | .var index _ => Text.isWritable index

def Row.isWritable : List Ty → Bool
  | [] => true
  | ty :: rest => Ty.isWritable ty && Row.isWritable rest

def Row.areWritable : List (List Ty) → Bool
  | [] => true
  | row :: rest => Row.isWritable row && Row.areWritable rest

def Arg.isWritable : Arg → Bool
  | .type ty => Ty.isWritable ty
  | .nat value => Text.isWritable value
  | .sequence elems => Arg.areWritable elems
  | .var index _ => Text.isWritable index
  | _ => true

def Arg.areWritable : List Arg → Bool
  | [] => true
  | arg :: rest => Arg.isWritable arg && Arg.areWritable rest

end

def Signature.isWritable (signature : Signature) : Bool :=
  Row.isWritable signature.input && Row.isWritable signature.output

end NestedFlow
