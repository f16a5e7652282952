import VoiceCommands.Text.Words

/-!
# Faults

A command can fail while its words are being turned into an action, or while
the action runs.  `Fault` lists every way this happens; `Fault.kind` names the
kind of failure and `Fault.message` gives its text, exactly as reported to the
user.
-/

namespace VoiceCommands

open Text

/-- A failure raised while interpreting or running a command. -/
inductive Fault where
  /-- A list was indexed past its end, e.g. the first word of no words. -/
  | listIndex
  /-- A string was indexed past its end, e.g. the first letter of an empty word. -/
  | stringIndex
  /-- The last element of an empty list was removed. -/
  | popEmpty
  /-- The identifier formatter of the given name does not exist (looked up by key). -/
  | unknownFormatter (name : String)
  /-- A module has no formatter of the given name. -/
  | missingModuleFormatter (module name : String)
  /-- The text rule has no formatter of the given name. -/
  | missingRuleFormatter (name : String)
  /-- An object of the given type was asked for an attribute it lacks. -/
  | missingAttribute (typeName field : String)
  /-- An action was repeated a number of times given by something that is not a number. -/
  | badMultiplier (shown : String)
  /-- A pattern was matched against something that is not text. -/
  | notText (typeName : String)
  /-- A value of the given type was indexed, but it has no elements. -/
  | notSubscriptable (typeName : String)
  /-- Words were joined, but the one at the given position is not text. -/
  | joinItem (index : Nat) (typeName : String)
  /-- Something that is not a collection was joined into text. -/
  | notJoinable
  /-- A value of the given type was gone through element by element, but it has
  no elements. -/
  | notIterable (typeName : String)
  /-- A value of the given type was added to text. -/
  | concatToStr (typeName : String)
  /-- A value of the given type was added to a list. -/
  | concatToList (typeName : String)
  /-- Two values of types that cannot be added were added. -/
  | unsupportedAdd (left right : String)
  /-- The length of a value of the given type, which has none, was asked for. -/
  | noLength (typeName : String)
  /-- A value of the given type, which cannot be a key, was used as one (a
  slice of a table, a list looked up in a table). -/
  | unhashable (typeName : String)
  /-- A value of the given type was asked whether it holds something. -/
  | notContainer (typeName : String)
  /-- Text was indexed by text. -/
  | stringIndices
  /-- A list was indexed by text. -/
  | listIndices
  /-- An event was made with the given number of arguments, counting the
  event itself; at most three are taken. -/
  | tooManyArguments (given : Nat)
  /-- The event class of the given name was called with arguments spread
from a value of the given type, which has no elements. -/
  | argumentsNotIterable (callee typeName : String)
  /-- Actions were combined, but there were none. -/
  | noActions
  /-- A specification could not be parsed (the message says why). -/
  | parse (message : String)
  /-- A repeated action failed to run (the repetition as it writes itself). -/
  | actionFailed (shown : String)
  /-- A table was looked up with a key it lacks (the key as written). -/
  | missingKey (shown : String)
  /-- A module could not be imported. -/
  | importFailure (message : String)
  deriving Repr, DecidableEq, Inhabited

/-- The kind of failure, as the class of the exception that reports it. -/
def Fault.kind : Fault → String
  | .listIndex | .stringIndex | .popEmpty => "IndexError"
  | .unknownFormatter _ | .missingKey _ => "KeyError"
  | .missingModuleFormatter _ _ | .missingRuleFormatter _ | .missingAttribute _ _ =>
    "AttributeError"
  | .badMultiplier _ | .notText _ | .notSubscriptable _ | .joinItem _ _ | .notJoinable
  | .notIterable _ | .concatToStr _ | .concatToList _ | .unsupportedAdd _ _ | .noLength _
  | .unhashable _ | .notContainer _ | .stringIndices | .listIndices | .tooManyArguments _
  | .argumentsNotIterable _ _ | .noActions => "TypeError"
  | .actionFailed _ => "ActionError"
  | .importFailure _ => "ImportError"
  | .parse _ => "ParseError"

/-- The text of the failure. -/
def Fault.message : Fault → String
  | .listIndex => "list index out of range"
  | .stringIndex => "string index out of range"
  | .popEmpty => "pop from empty list"
  | .unknownFormatter name => quote ("format_" ++ name)
  | .missingModuleFormatter module name =>
    "module '" ++ module ++ "' has no attribute 'format_" ++ name ++ "'"
  | .missingRuleFormatter name =>
    "type object 'TextRule' has no attribute 'format_" ++ name ++ "'"
  | .missingAttribute typeName field =>
    "'" ++ typeName ++ "' object has no attribute '" ++ field ++ "'"
  | .badMultiplier shown =>
    "Invalid multiplier type: " ++ shown ++ " (must be an int or a Repeat object)"
  | .notText typeName => "expected string or bytes-like object, got '" ++ typeName ++ "'"
  | .notSubscriptable typeName => "'" ++ typeName ++ "' object is not subscriptable"
  | .joinItem index typeName =>
    "sequence item " ++ toString index ++ ": expected str instance, " ++ typeName ++ " found"
  | .notJoinable => "can only join an iterable"
  | .notIterable typeName => "'" ++ typeName ++ "' object is not iterable"
  | .concatToStr typeName => "can only concatenate str (not \"" ++ typeName ++ "\") to str"
  | .concatToList typeName => "can only concatenate list (not \"" ++ typeName ++ "\") to list"
  | .unsupportedAdd left right =>
    "unsupported operand type(s) for +: '" ++ left ++ "' and '" ++ right ++ "'"
  | .noLength typeName => "object of type '" ++ typeName ++ "' has no len()"
  | .unhashable typeName => "unhashable type: '" ++ typeName ++ "'"
  | .notContainer typeName => "argument of type '" ++ typeName ++ "' is not iterable"
  | .stringIndices => "string indices must be integers, not 'str'"
  | .listIndices => "list indices must be integers or slices, not str"
  | .tooManyArguments given =>
    "DynStrActionBase.__init__() takes from 1 to 3 positional arguments but " ++ toString given ++
      " were given"
  | .actionFailed shown => shown
  | .missingKey shown => shown
  | .importFailure message => message
  | .argumentsNotIterable callee typeName =>
    "__main__." ++ callee ++ "() argument after * must be an iterable, not " ++ typeName
  | .noActions => "reduce() of empty iterable with no initial value"
  | .parse message => message

end VoiceCommands
