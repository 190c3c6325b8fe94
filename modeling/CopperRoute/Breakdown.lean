/-!
# Breakdowns

Failures that no report describes: an operation met a value that it is not defined on, or the file
system refused a step. They end the work at hand and carry nothing but what went wrong.
-/

namespace CopperRoute

inductive Breakdown where
  /-- a number past the range of doubles where a double is needed -/
  | outOfRange
  /-- a value of the right type that the operation is not defined on -/
  | unfitValue
  /-- a value of a type that the operation is not defined on -/
  | wrongType
  /-- a part that the value does not have -/
  | noSuchPart
  /-- a place that a list or a text does not have -/
  | noSuchIndex
  /-- a key that stands in no table -/
  | noSuchKey
  /-- bytes that are not UTF-8 -/
  | notText
  /-- a directory where a file is needed -/
  | isDirectory
  /-- a file where a directory is needed -/
  | notDirectory
  /-- an entry where none may be yet -/
  | alreadyThere
  /-- no entry where one is needed -/
  | notThere
  /-- a name or a path that is too long for the file system -/
  | nameTooLong
  /-- data nested too deeply to be followed -/
  | tooDeep
deriving Repr, DecidableEq

/-- Why the text of a document gives no value. -/
inductive Unreadable where
  /-- text outside the grammar, with what is wrong -/
  | malformed (detail : String)
  /-- a part that stands for no value -/
  | breakdown (cause : Breakdown)
deriving Repr, DecidableEq

end CopperRoute
