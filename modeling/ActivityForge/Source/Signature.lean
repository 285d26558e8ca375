import ActivityForge.Activity
import ActivityForge.Source.TypeText

/-!
# Signatures

The method of an activity as the contract declares it and the implementation defines it: its name,
its parameters behind the receiver, and its result.
-/

namespace ActivityForge

namespace Source

/-- A name with the text of its type. -/
structure Binder where
  name : String
  type : String
deriving DecidableEq, Repr, Inhabited

def Binder.text (b : Binder) : String := b.name ++ ": " ++ b.type

structure Signature where
  name : String
  parameters : List Binder
  result : String
deriving DecidableEq, Repr, Inhabited

end Source

namespace Activity

open Source

/-- The name of the method in the contract, the implementation and the client. -/
def methodName (a : Activity) : String := identifier a.name.snake

/-- The text of the result type; no result is the empty tuple. -/
def resultText (a : Activity) : String :=
  match a.resultType? with
  | some t => t.text
  | none => "()"

def Argument.binder (a : Argument) : Binder := ⟨identifier a.fieldName, a.type.text⟩

/-- The parameters of the method: one request object, or one for each argument. -/
def binders (a : Activity) : List Binder :=
  if a.usesRequest then [⟨"request", "requests::" ++ a.requestName⟩]
  else a.arguments.map Argument.binder

def signature (a : Activity) : Signature := ⟨a.methodName, a.binders, a.resultText⟩

/-- The module of the client that the activity calls into. -/
def clientModule (a : Activity) : String := escapeKeyword (memberName a.clientGroup ++ "_api")

/-- What the client function is passed: fields of the request object, or the parameters. -/
def callArguments (a : Activity) : List String :=
  a.arguments.map fun arg =>
    if a.usesRequest then "request." ++ identifier arg.fieldName else identifier arg.fieldName

end Activity

end ActivityForge
