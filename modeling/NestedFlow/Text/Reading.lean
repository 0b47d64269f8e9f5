/-! Results of reading a text.

A text may be refused because it is not of the form that is read, but also because it asks for too much: numbers of
many digits and values nested deeply are refused where they are met. A text whose bytes stand for no characters is
refused before anything is read.
-/

set_option autoImplicit false

namespace NestedFlow

inductive TextFault where
  | form
  | digits
  | depth
  | bytes
  deriving DecidableEq

abbrev Reading (α : Type) := Except TextFault α

namespace Reading

variable {α : Type}

/-- What is there, or a text of the wrong form. -/
def ofOption : Option α → Reading α
  | some value => .ok value
  | none => .error .form

instance : MonadLift Option Reading := ⟨ofOption⟩

end Reading

end NestedFlow
