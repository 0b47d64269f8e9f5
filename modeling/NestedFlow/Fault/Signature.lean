import NestedFlow.Fault.Writable

/-! What can be wrong with static arguments, variables and signatures. -/

set_option autoImplicit false

namespace NestedFlow

inductive SignatureFault where
  | setEntry (entry : String)
  | notType (arg : Arg)
  | notExtensions (arg : Arg)
  | natRange (value : Int) (param : Param)
  | misfit (arg : Arg) (param : Param)
  | argCount (expected got : Nat)
  | undeclared (index : Int) (scope : Nat)
  | declaredOtherwise (index : Int) (claimed declared : Param)
  | boundDisagrees (ty : Ty) (expected : Bound)
  | tagRange (tag : Int) (variants : Nat)
  | noRequirements (op : Op)
  | unknownType (extension name : String)
  | noRule (extension name : String)
  | tooFewArgs (needed : Nat) (extension name : String) (got : Nat)
  | logicArgs (args : List Arg)
  | negativeNumber (value : Int)
  | staleSignature (cached : Signature) (op : Op) (computed : Signature)
  | staleInstantiation (cached : Signature) (op : Op) (computed : Signature)

namespace SignatureFault

/-- Whether the numbers in the message have few enough digits. -/
def isWritable : SignatureFault → Bool
  | .notType arg | .notExtensions arg => arg.isWritable
  | .natRange value param => Text.isWritable value && param.isWritable
  | .misfit arg param => arg.isWritable && param.isWritable
  | .undeclared index _ => Text.isWritable index
  | .declaredOtherwise index claimed declared =>
    Text.isWritable index && claimed.isWritable && declared.isWritable
  | .boundDisagrees ty _ => ty.isWritable
  | .tagRange tag _ => Text.isWritable tag
  | .logicArgs args => Arg.areWritable args
  | .negativeNumber value => Text.isWritable value
  | .staleSignature cached _ computed | .staleInstantiation cached _ computed =>
    cached.isWritable && computed.isWritable
  | .setEntry _ | .argCount _ _ | .noRequirements _ | .unknownType _ _ | .noRule _ _ | .tooFewArgs _ _ _ _ => true

def message : SignatureFault → String
  | .setEntry entry => "Invalid extension set entry: " ++ Text.quoted entry
  | .notType arg => "Expected a type argument, got " ++ arg.text
  | .notExtensions arg => "Expected an extension set argument, got " ++ arg.text
  | .natRange value param => "Natural " ++ toString value ++ " out of range for " ++ param.text
  | .misfit arg param => "Type argument " ++ arg.text ++ " does not fit parameter " ++ param.text
  | .argCount expected got =>
    "Wrong number of type arguments: expected " ++ toString expected ++ ", got " ++ toString got
  | .undeclared index scope =>
    "Type variable " ++ toString index ++ " was not declared (" ++ toString scope ++ " in scope)"
  | .declaredOtherwise index claimed declared =>
    "Type variable " ++ toString index ++ " claims to be " ++ claimed.text ++ " but is declared as " ++ declared.text
  | .boundDisagrees ty expected =>
    "Bound of " ++ ty.text ++ " is " ++ ty.bound.text ++ " but its definition gives " ++ expected.text
  | .tagRange tag variants =>
    "Tag " ++ toString tag ++ " out of range for " ++ toString variants ++ " variants"
  | .noRequirements op => op.name ++ " does not declare extension requirements"
  | .unknownType extension name =>
    "Extension '" ++ extension ++ "' did not contain expected TypeDef '" ++ name ++ "'"
  | .noRule extension name =>
    "Operation " ++ extension ++ "." ++ name ++ " has no signature rule; register it from code"
  | .tooFewArgs needed extension name got =>
    "Expected at least " ++ toString needed ++ " arguments for " ++ extension ++ "." ++ name ++ ", got " ++ toString got
  | .logicArgs args =>
    "Invalid type arguments for logic operation: " ++ bracketed ((Arg.texts args).map Text.quoted)
  | .negativeNumber value => "usize constants must be non-negative, got " ++ toString value
  | .staleSignature cached op computed =>
    "Cached signature " ++ cached.text ++ " of " ++ op.name ++ " differs from computed " ++ computed.text
  | .staleInstantiation cached op computed =>
    "Cached instantiation " ++ cached.text ++ " of " ++ op.name ++ " differs from computed " ++ computed.text

end SignatureFault

end NestedFlow
