import NestedFlow.Fault
import NestedFlow.Position
import NestedFlow.Text.Digit

/-! Checking static arguments against parameters, and substituting them for variables.

Every use of a variable records the kind it was declared with; substitution checks the argument against that kind
again. The bound of a custom type that takes it from its arguments is computed anew whenever they change.
-/

set_option autoImplicit false

namespace NestedFlow

namespace Arg

/-- The type that an argument carries. -/
def asType : Arg → Outcome Ty
  | .type ty => pure ty
  | arg => fail (.signature (.notType arg))

/-- The set of extensions that an argument carries. -/
def asExtensions : Arg → Outcome ExtensionSet
  | .extensions set => pure set
  | .var index .extensions => pure (.ofVariable index)
  | arg => fail (.signature (.notExtensions arg))

mutual

/-- An argument fits a parameter of its own kind within its limits; a variable fits if its kind is contained. -/
def check : Arg → Param → Outcome Unit
  | .var index declared, param =>
    if param.contains declared then pure () else fail (.signature (.misfit (.var index declared) param))
  | .type ty, .type bound =>
    if bound.contains ty.bound then pure () else fail (.signature (.misfit (.type ty) (.type bound)))
  | .nat value, .nat upper =>
    if value < 0 ∨ upper.any (fun limit => decide (limit ≤ value)) then
      fail (.signature (.natRange value (.nat upper)))
    else pure ()
  | .string _, .string => pure ()
  | .extensions _, .extensions => pure ()
  | .sequence elems, .list elem => checkEach elems elem
  | arg, param => fail (.signature (.misfit arg param))

def checkEach : List Arg → Param → Outcome Unit
  | [], _ => pure ()
  | arg :: rest, param => do
    check arg param
    checkEach rest param

end

def checkZip : List Arg → List Param → Outcome Unit
  | arg :: args, param :: params => do
    arg.check param
    checkZip args params
  | _, _ => pure ()

/-- A list of arguments fits a list of parameters of the same length. -/
def checkList (args : List Arg) (params : List Param) : Outcome Unit :=
  if args.length = params.length then checkZip args params
  else fail (.signature (.argCount params.length args.length))

end Arg

/-- A variable is declared, and as the kind that its use records. -/
def checkVariable (scope : List Param) (index : Int) (claimed : Param) : Outcome Unit :=
  if index < 0 then fail (.signature (.undeclared index scope.length))
  else
    match scope[index.toNat]? with
    | none => fail (.signature (.undeclared index scope.length))
    | some declared =>
      if declared = claimed then pure ()
      else fail (.signature (.declaredOtherwise index claimed declared))

/-- The bound taken from the types at some positions of the arguments. Positions beyond the end do not count,
negative ones count from the end, and the first linear type decides. -/
def derivedBound (args : List Arg) : List Int → Outcome Bound
  | [] => pure .copyable
  | position :: rest =>
    if (args.length : Int) ≤ position then derivedBound args rest
    else
      match itemAt? args position with
      | none => fail (.breakdown .position)
      | some arg => do
        let ty ← arg.asType
        if ty.isLinear then pure .linear else derivedBound args rest

/-- A custom type; its own bound counts only if none is taken from the arguments. -/
def Ty.instance? (extension name : String) (args : List Arg) (bound : Bound) (boundFrom : Option (List Int)) :
    Outcome Ty :=
  match boundFrom with
  | none => pure (.custom extension name args bound none)
  | some positions => do
    let derived ← derivedBound args positions
    pure (.custom extension name args derived (some positions))

namespace ExtensionSet

/-- An entry that begins with a digit is the index of a variable and has digits only; every other is a name. -/
def addEntry (limit : Text.DigitLimit) (set : ExtensionSet) (entry : String) : Outcome ExtensionSet :=
  let chars := entry.toList
  if (chars.head?.map Text.isDigit).getD false then
    if chars.all Text.isDigit then
      match Text.natOfDigitsWithin? limit chars with
      | some index => pure { set with indices := set.indices.insert (index : Int) }
      | none => fail (.breakdown .value)
    else fail (.signature (.setEntry entry))
  else pure (set.insert entry)

/-- The set of the names and the variables that a list has, where numbers have a limit of digits. -/
def ofStringsWithin (limit : Text.DigitLimit) (entries : List String) : Outcome ExtensionSet :=
  entries.foldlM (addEntry limit) empty

def ofStrings (entries : List String) : Outcome ExtensionSet := ofStringsWithin (some Text.maxDigits) entries

/-- The list of a set, if the indices of its variables can be written where numbers have a limit of digits. -/
def toStringsWithin (limit : Text.DigitLimit) (set : ExtensionSet) : Outcome (List String) :=
  if set.indices.toList.all limit.writes then pure set.toStrings else fail (.breakdown .value)

/-- Every variable is declared as a set of extensions. -/
def validate (set : ExtensionSet) (scope : List Param) : Outcome Unit :=
  set.indices.toList.forM fun index => checkVariable scope index .extensions

end ExtensionSet

/-- The argument for a variable, checked against the kind that its use records. -/
def argumentFor (args : List Arg) (index : Int) (kind : Param) : Outcome Arg :=
  if index < 0 then fail (.signature (.undeclared index args.length))
  else
    match args[index.toNat]? with
    | none => fail (.signature (.undeclared index args.length))
    | some arg => do
      arg.check kind
      pure arg

namespace ExtensionSet

def substVariables (args : List Arg) : List Int → ExtensionSet → Outcome ExtensionSet
  | [], set => pure set
  | index :: rest, set => do
    let arg ← argumentFor args index .extensions
    let part ← arg.asExtensions
    substVariables args rest (set.union part)

/-- Every variable replaced by the set that it stands for. -/
def subst (args : List Arg) (set : ExtensionSet) : Outcome ExtensionSet :=
  substVariables args set.indices.toList ⟨set.names, ∅⟩

end ExtensionSet

mutual

def Ty.subst (args : List Arg) : Ty → Outcome Ty
  | .custom extension name [] bound boundFrom => pure (.custom extension name [] bound boundFrom)
  | .custom extension name own bound boundFrom => do
    let own ← Arg.substAll args own
    Ty.instance? extension name own bound boundFrom
  | .sum variants => do
    let variants ← Row.substAll args variants
    pure (.sum variants)
  | .tuple row => do
    let row ← Row.subst args row
    pure (.tuple row)
  | .function input output reqs => do
    let input ← Row.subst args input
    let output ← Row.subst args output
    let reqs ← reqs.subst args
    pure (.function input output reqs)
  | .var index bound => do
    let arg ← argumentFor args index (.type bound)
    arg.asType

def Row.subst (args : List Arg) : List Ty → Outcome (List Ty)
  | [] => pure []
  | ty :: rest => do
    let ty ← Ty.subst args ty
    let rest ← Row.subst args rest
    pure (ty :: rest)

def Row.substAll (args : List Arg) : List (List Ty) → Outcome (List (List Ty))
  | [] => pure []
  | row :: rest => do
    let row ← Row.subst args row
    let rest ← Row.substAll args rest
    pure (row :: rest)

def Arg.subst (args : List Arg) : Arg → Outcome Arg
  | .type ty => do
    let ty ← Ty.subst args ty
    pure (.type ty)
  | .nat value => pure (.nat value)
  | .string value => pure (.string value)
  | .extensions set => do
    let set ← set.subst args
    pure (.extensions set)
  | .sequence elems => do
    let elems ← Arg.substAll args elems
    pure (.sequence elems)
  | .var index param => argumentFor args index param

def Arg.substAll (args : List Arg) : List Arg → Outcome (List Arg)
  | [] => pure []
  | arg :: rest => do
    let arg ← Arg.subst args arg
    let rest ← Arg.substAll args rest
    pure (arg :: rest)

end

namespace Signature

def subst (args : List Arg) (signature : Signature) : Outcome Signature := do
  let input ← Row.subst args signature.input
  let output ← Row.subst args signature.output
  let reqs ← signature.reqs.subst args
  pure ⟨input, output, reqs⟩

end Signature

namespace Scheme

/-- The signature at given arguments. A signature without parameters is taken as it is. -/
def instantiate (scheme : Scheme) (args : List Arg) : Outcome Signature := do
  Arg.checkList args scheme.params
  if scheme.params.isEmpty then pure scheme.body else scheme.body.subst args

end Scheme

end NestedFlow
