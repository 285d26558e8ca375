/-!
# Faults

What can be wrong with a text that is read as a value of some shape.
-/

namespace ActivityForge.Reading

inductive Fault
  /-- The text breaks the rules of its notation. -/
  | malformed
  /-- The text ends too early. -/
  | truncated
  | missingField (name : String)
  | duplicateField (name : String)
  /-- A value of another kind than the expected one. -/
  | wrongType (found expected : String)
  /-- A record written as a list that ends before the field at `length`. -/
  | wrongLength (length : Nat) (record : String) (fields : Nat)
  /-- A value that fits none of the forms that `choice` has. -/
  | noVariant (choice : String)
  /-- Any other reason. -/
  | unreadable
deriving DecidableEq, Repr

/-- The text of a fault; faults of notation and other reasons have none. -/
def Fault.message? : Fault → Option String
  | .malformed | .truncated | .unreadable => none
  | .missingField name => some ("missing field \x60" ++ name ++ "\x60")
  | .duplicateField name => some ("duplicate field \x60" ++ name ++ "\x60")
  | .wrongType found expected => some ("invalid type: " ++ found ++ ", expected " ++ expected)
  | .wrongLength length record fields =>
    some ("invalid length " ++ toString length ++ ", expected struct " ++ record ++ " with "
      ++ toString fields ++ " elements")
  | .noVariant choice => some ("data did not match any variant of untagged enum " ++ choice)

/-- The text of a fault, also of one without details. -/
def Fault.text (f : Fault) : String := f.message?.getD "malformed text"

end ActivityForge.Reading
