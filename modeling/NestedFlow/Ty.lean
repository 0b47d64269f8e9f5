import NestedFlow.ExtensionSet
import NestedFlow.Param
import NestedFlow.Text.Quoted

/-! Types of values and static arguments.

A custom type is an instance of a definition of some extension; it carries its bound and, if the definition
takes the bound from its arguments, their positions. Types are compared structurally.
-/

set_option autoImplicit false

namespace NestedFlow

mutual

inductive Ty where
  | custom (extension name : String) (args : List Arg) (bound : Bound) (boundFrom : Option (List Int))
  | sum (variants : List (List Ty))
  | tuple (row : List Ty)
  | function (input output : List Ty) (reqs : ExtensionSet)
  | var (index : Int) (bound : Bound)

inductive Arg where
  | type (ty : Ty)
  | nat (value : Int)
  | string (value : String)
  | extensions (set : ExtensionSet)
  | sequence (elems : List Arg)
  | var (index : Int) (param : Param)

end

instance : Inhabited Ty := ⟨.tuple []⟩

instance : Inhabited Arg := ⟨.sequence []⟩

/-- The types of a group of ports, in order. -/
abbrev Row := List Ty

mutual

def Ty.same : Ty → Ty → Bool
  | .custom e n args b f, .custom e' n' args' b' f' =>
    e == e' && n == n' && Arg.sameAll args args' && decide (b = b') && decide (f = f')
  | .sum rows, .sum rows' => Row.sameAll rows rows'
  | .tuple row, .tuple row' => Row.same row row'
  | .function i o r, .function i' o' r' => Row.same i i' && Row.same o o' && decide (r = r')
  | .var i b, .var i' b' => decide (i = i') && decide (b = b')
  | _, _ => false

def Row.same : List Ty → List Ty → Bool
  | [], [] => true
  | ty :: rest, ty' :: rest' => Ty.same ty ty' && Row.same rest rest'
  | _, _ => false

def Row.sameAll : List (List Ty) → List (List Ty) → Bool
  | [], [] => true
  | row :: rest, row' :: rest' => Row.same row row' && Row.sameAll rest rest'
  | _, _ => false

def Arg.same : Arg → Arg → Bool
  | .type ty, .type ty' => Ty.same ty ty'
  | .nat n, .nat n' => decide (n = n')
  | .string s, .string s' => s == s'
  | .extensions es, .extensions es' => decide (es = es')
  | .sequence elems, .sequence elems' => Arg.sameAll elems elems'
  | .var i p, .var i' p' => decide (i = i') && decide (p = p')
  | _, _ => false

def Arg.sameAll : List Arg → List Arg → Bool
  | [], [] => true
  | arg :: rest, arg' :: rest' => Arg.same arg arg' && Arg.sameAll rest rest'
  | _, _ => false

end

mutual

theorem Ty.same_iff : ∀ (a b : Ty), a.same b = true ↔ a = b
  | .custom _ _ args _ _, b => by
    cases b <;> simp [Ty.same, Arg.sameAll_iff args, and_assoc]
  | .sum rows, b => by cases b <;> simp [Ty.same, Row.sameAll_iff rows]
  | .tuple row, b => by cases b <;> simp [Ty.same, Row.same_iff row]
  | .function i o _, b => by cases b <;> simp [Ty.same, Row.same_iff i, Row.same_iff o, and_assoc]
  | .var _ _, b => by cases b <;> simp [Ty.same]

theorem Row.same_iff : ∀ (a b : List Ty), Row.same a b = true ↔ a = b
  | [], b => by cases b <;> simp [Row.same]
  | ty :: rest, b => by cases b <;> simp [Row.same, Ty.same_iff ty, Row.same_iff rest]

theorem Row.sameAll_iff : ∀ (a b : List (List Ty)), Row.sameAll a b = true ↔ a = b
  | [], b => by cases b <;> simp [Row.sameAll]
  | row :: rest, b => by cases b <;> simp [Row.sameAll, Row.same_iff row, Row.sameAll_iff rest]

theorem Arg.same_iff : ∀ (a b : Arg), a.same b = true ↔ a = b
  | .type ty, b => by cases b <;> simp [Arg.same, Ty.same_iff ty]
  | .nat _, b => by cases b <;> simp [Arg.same]
  | .string _, b => by cases b <;> simp [Arg.same]
  | .extensions _, b => by cases b <;> simp [Arg.same]
  | .sequence elems, b => by cases b <;> simp [Arg.same, Arg.sameAll_iff elems]
  | .var _ _, b => by cases b <;> simp [Arg.same]

theorem Arg.sameAll_iff : ∀ (a b : List Arg), Arg.sameAll a b = true ↔ a = b
  | [], b => by cases b <;> simp [Arg.sameAll]
  | arg :: rest, b => by cases b <;> simp [Arg.sameAll, Arg.same_iff arg, Arg.sameAll_iff rest]

end

instance : DecidableEq Ty := fun a b => decidable_of_iff _ (Ty.same_iff a b)

instance : DecidableEq Arg := fun a b => decidable_of_iff _ (Arg.same_iff a b)

mutual

def Ty.bound : Ty → Bound
  | .custom _ _ _ bound _ => bound
  | .sum variants => Row.boundAll variants
  | .tuple row => Row.bound row
  | .function _ _ _ => .copyable
  | .var _ bound => bound

/-- The join of the bounds of a row. -/
def Row.bound : List Ty → Bound
  | [] => .copyable
  | ty :: rest => (Ty.bound ty).max (Row.bound rest)

def Row.boundAll : List (List Ty) → Bound
  | [] => .copyable
  | row :: rest => (Row.bound row).max (Row.boundAll rest)

end

theorem Row.bound_eq_join (row : Row) : Row.bound row = Bound.join (row.map Ty.bound) := by
  induction row with
  | nil => rfl
  | cons ty rest ih => simp [Row.bound, Bound.join, ih]

/-- Whether values of the type are consumed exactly once. -/
def Ty.isLinear (ty : Ty) : Bool := ty.bound == .linear

/-- Whether no variant carries a value. -/
def isUnitSum (variants : List Row) : Bool := variants.all List.isEmpty

/-- A sum of variants without values. -/
def Ty.unitSum (size : Nat) : Ty := .sum (List.replicate size [])

def bracketed (items : List String) : String := "[" ++ ", ".intercalate items ++ "]"

mutual

def Ty.text : Ty → String
  | .custom _ name [] _ _ => name
  | .custom _ name args _ _ => name ++ "(" ++ ", ".intercalate (Arg.texts args) ++ ")"
  | .sum variants =>
    if isUnitSum variants then "Sum(#" ++ toString variants.length ++ ")"
    else "Sum(" ++ ", ".intercalate (Row.variantTexts variants) ++ ")"
  | .tuple row => "Tuple(" ++ ", ".intercalate (Row.texts row) ++ ")"
  | .function input output reqs =>
    bracketed (Row.texts input) ++ " -> " ++ bracketed (Row.texts output) ++
      (if reqs.isEmpty then "" else " " ++ reqs.text)
  | .var index _ => "#" ++ toString index

def Row.texts : List Ty → List String
  | [] => []
  | ty :: rest => Ty.text ty :: Row.texts rest

def Row.variantTexts : List (List Ty) → List String
  | [] => []
  | row :: rest => bracketed (Row.texts row) :: Row.variantTexts rest

def Arg.text : Arg → String
  | .type ty => Ty.text ty
  | .nat value => toString value
  | .string value => Text.quoted value
  | .extensions set => set.text
  | .sequence elems => bracketed (Arg.texts elems)
  | .var index _ => "?" ++ toString index

def Arg.texts : List Arg → List String
  | [] => []
  | arg :: rest => Arg.text arg :: Arg.texts rest

end

def Row.text (row : Row) : String := bracketed (Row.texts row)

end NestedFlow
