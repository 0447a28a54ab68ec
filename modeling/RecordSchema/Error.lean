import RecordSchema.Value.Printer

/-!
# Errors

One type for everything that can go wrong.  The first group are causes that this library names
itself, each with a wording; the others come from a value that does not have the shape an
operation needs, and say no more than which kind of misfit it was.
-/

namespace RecordSchema

/-- A step on the way to a part of a document. -/
inductive PathStep where
  | name (text : String)
  | index (position : Nat)
  deriving DecidableEq, Repr

/-- A part of a document that has the wrong shape, and the shape that was wanted. -/
structure ShapeIssue where
  path : List PathStep
  wanted : String
  deriving DecidableEq, Repr

/-- What went wrong. -/
inductive Error where
  | tokenNotText (found : Value)
  | typeTagNotText (found : Value)
  | typeUnsupported (declared : Value)
  | unionEmpty
  | commaInValue (rule : String) (field : Value) (rendered : String)
  | childOnNonObject
  | childrenOnNonObject
  | itemsOnNonArray
  | builderOnNonObject
  | childNotSchema (name : String)
  | conditionUnsupported
  | patternInvalid (source : String)
  | closureNotRestorable
  | ruleKindUnknown (kind : Value)
  | parametersMissing (rule : String) (count : Nat)
  | ruleUnknown (rule field : String)
  | notWritable (typeName : String)
  | levelUnknown (level : String)
  | notAnObject (what path : String)
  /-- A value of a type that the operation does not take. -/
  | wrongType
  /-- A value without the operation that is asked of it. -/
  | noSuchMember
  /-- A name that has to be there and is not. -/
  | missingKey
  /-- A value of the right type that cannot be converted. -/
  | badValue
  /-- A number out of range. -/
  | outOfRange
  /-- A structure that contains itself, or goes too deep. -/
  | endlessNesting
  /-- A value whose parts are nested too deep to be written. -/
  | tooDeepToWrite
  /-- A pattern that reads well and cannot be run. -/
  | notExecutable
  /-- A match with parts that make no sense. -/
  | brokenMatch
  /-- A result too large to hold. -/
  | tooLarge
  /-- A document of the wrong shape. -/
  | wrongShape (issues : List ShapeIssue)
  /-- A text that is no JSON. -/
  | malformedJson
  /-- A text with half of a character. -/
  | halfCharacter
  /-- A file that is not there. -/
  | missingFile
  /-- A directory where a file is wanted. -/
  | notAFile
  /-- A file where a directory is wanted. -/
  | notADirectory
  /-- A path that no file can have. -/
  | impossiblePath
  deriving Repr

namespace Error

/-- The wording of an error that this library names itself. -/
def message? : Error → Option String
  | .tokenNotText found => some ("Rule tokens must be strings, got " ++ found.typeName)
  | .typeTagNotText found => some ("Type tags must be strings, got " ++ found.typeName)
  | .typeUnsupported declared => some ("Unsupported type declaration: " ++ declared.quoted)
  | .unionEmpty => some "Union types need at least one member"
  | .commaInValue rule field rendered =>
    some (rule ++ " value for '" ++ field.toText ++ "' cannot contain a comma: " ++
      Text.quoted rendered)
  | .childOnNonObject => some "Properties can only be added to object type properties"
  | .childrenOnNonObject => some "Properties can only be set on object type properties"
  | .itemsOnNonArray => some "Items can only be set on array type properties"
  | .builderOnNonObject => some "Builder can only be used with object type properties"
  | .childNotSchema name => some ("Invalid schema for property '" ++ name ++ "'")
  | .conditionUnsupported =>
    some "Conditions must be a callable, a mapping of field values or a field name"
  | .patternInvalid source => some ("Invalid pattern " ++ Text.quoted source)
  | .closureNotRestorable => some "Closure rules cannot be restored from serialized data"
  | .ruleKindUnknown kind => some ("Unknown conditional rule type: " ++ kind.quoted)
  | .parametersMissing rule count =>
    some ("Validation rule " ++ rule ++ " requires at least " ++ toString count ++
      " parameters.")
  | .ruleUnknown rule field =>
    some ("Unknown validation rule '" ++ rule ++ "' on field '" ++ field ++ "'")
  | .notWritable typeName =>
    some ("Object of type " ++ typeName ++ " is not JSON serializable")
  | .levelUnknown level => some ("Unknown log level: " ++ level)
  | .notAnObject what path => some (what ++ " must be a JSON object: " ++ path)
  | _ => none

def description (error : Error) : String :=
  match error.message?, error with
  | some text, _ => text
  | none, .wrongType => "a value has a type that does not fit"
  | none, .noSuchMember => "a value does not have the part that is asked of it"
  | none, .missingKey => "a name is missing"
  | none, .badValue => "a value cannot be converted"
  | none, .outOfRange => "a number is out of range"
  | none, .endlessNesting => "a structure contains itself or goes too deep"
  | none, .tooDeepToWrite => "a value is nested too deep to be written"
  | none, .notExecutable => "a pattern cannot be run"
  | none, .brokenMatch => "a match makes no sense"
  | none, .tooLarge => "a result is too large"
  | none, .wrongShape _ => "a document does not have the shape of a schema"
  | none, .malformedJson => "a text is not JSON"
  | none, .halfCharacter => "a text has half of a character"
  | none, .missingFile => "a file is missing"
  | none, .notAFile => "a directory stands where a file is wanted"
  | none, .notADirectory => "a file stands where a directory is wanted"
  | none, .impossiblePath => "no file can have such a path"
  | none, _ => "something went wrong"

end Error
end RecordSchema
