import NestedFlow.Extension

/-! The two extensions that come with the library: the prelude, with types that every program may rely on, and the
logic extension, with operations on truth values. A truth value is a sum of two variants without values.
-/

set_option autoImplicit false

namespace NestedFlow

namespace Standard

def definePrelude (name description : String) (bound : Bound) : String × TypeDef :=
  (name, ⟨"prelude", name, [], description, .fixed bound⟩)

def prelude : Extension where
  name := "prelude"
  version := "0.1.0"
  reqs := ∅
  description := "Types shared by all programs"
  types := .ofList [
    definePrelude "usize" "Non-negative machine integer" .copyable,
    definePrelude "qubit" "A quantum bit" .linear,
    definePrelude "error" "Simple opaque error type" .copyable]
  operations := ∅
  values := ∅

def usize : Ty := .custom "prelude" "usize" [] .copyable none

def qubit : Ty := .custom "prelude" "qubit" [] .linear none

def error : Ty := .custom "prelude" "error" [] .copyable none

def bool : Ty := .unitSum 2

/-- A constant of the machine integers. -/
def usizeConstant (value : Int) : Outcome Value :=
  if value < 0 then fail (.signature (.negativeNumber value)) else pure (.extension usize (.int value))

/-- The most types of a row. -/
def maxRow : Int := Int.pow 2 32

/-- A row of so many truth values; there is no room for too many, and their number has to fit eight bytes. -/
def bools (count : Int) : Outcome Row :=
  if Int.pow 2 63 ≤ count then fail (.breakdown .range)
  else if maxRow < count then fail (.breakdown .memory)
  else pure (List.replicate count.toNat bool)

/-- As many truth values in as the argument says, one out. -/
def naryRule : ComputedRule where
  staticParams := [.nat none]
  compute args :=
    match args with
    | [.nat n] => do
      let inputs ← bools n
      pure (.mono (.ofRows inputs [bool]))
    | _ => fail (.signature (.logicArgs args))

def logicOp (name : String) (rule : SignatureRule) (description : String) : String × OpDef :=
  (name, ⟨"logic", name, rule, description, []⟩)

def logicValue (name : String) (tag : Int) : String × NamedValue := (name, ⟨"logic", name, .unit tag, bool⟩)

def logic : Extension where
  name := "logic"
  version := "0.1.0"
  reqs := ∅
  description := "Basic logical operations"
  types := ∅
  operations := .ofList [
    logicOp "And" (.computed naryRule) "logical 'and'",
    logicOp "Or" (.computed naryRule) "logical 'or'",
    logicOp "Not" (.fixed (.mono (.endo [bool] ∅))) "logical 'not'"]
  values := .ofList [logicValue "FALSE" 0, logicValue "TRUE" 1]

end Standard

namespace Registry

def prelude : Registry := ⟨.ofList [("prelude", Standard.prelude)]⟩

def logic : Registry := ⟨.ofList [("prelude", Standard.prelude), ("logic", Standard.logic)]⟩

end Registry

end NestedFlow
