import RecordSchema.Text.Blank
import RecordSchema.Text.Case
import RecordSchema.Value.Conversion

/-!
# Log records

What is logged is a list of records, each with the name of a logger, a level and a text.  Whether
a record is shown depends on a threshold, which is a number or the name of a level.
-/

namespace RecordSchema

/-- How important a log record is. -/
inductive Level where
  | debug
  | info
  | warning
  | error
  | critical
  deriving DecidableEq, Repr

namespace Level

def number : Level → Int
  | .debug => 10
  | .info => 20
  | .warning => 30
  | .error => 40
  | .critical => 50

def name : Level → String
  | .debug => "DEBUG"
  | .info => "INFO"
  | .warning => "WARNING"
  | .error => "ERROR"
  | .critical => "CRITICAL"

def ofName? : String → Option Level
  | "DEBUG" => some .debug
  | "INFO" => some .info
  | "WARNING" => some .warning
  | "ERROR" => some .error
  | "CRITICAL" => some .critical
  | _ => none

/-- The numbers of all names that a threshold may be given by. -/
def thresholdNames : Fields Int :=
  [("CRITICAL", 50), ("FATAL", 50), ("ERROR", 40), ("WARN", 30), ("WARNING", 30), ("INFO", 20),
   ("DEBUG", 10), ("NOTSET", 0)]

/-- The threshold in a value: a number is one already, and a text is the name of one, in any
case and with white space around it. -/
def resolve : Value → Except Error Value
  | .int number => .ok (.int number)
  | .bool flag => .ok (.bool flag)
  | .text name =>
    match thresholdNames.get? (Text.upper (Text.strip name)) with
    | some number => .ok (.int number)
    | none => .error (.levelUnknown name)
  | _ => .error .noSuchMember

def thresholdNumber : Value → Int
  | .int number => number
  | .bool true => 1
  | _ => 0

end Level

structure LogRecord where
  logger : String
  level : Level
  text : String
  deriving DecidableEq, Repr

namespace LogRecord

def defaultLogger : String := "schemacraft"

/-- The name of a logger, where no name and an empty one stand for the default.  Any other name
has to be a text. -/
def loggerName (name : Value) : Except Error String :=
  match name.orElse (.text defaultLogger) with
  | .text given => .ok given
  | _ => .error .wrongType

def isShown (threshold : Int) (entry : LogRecord) : Bool :=
  threshold ≤ entry.level.number

def shown (threshold : Int) (log : List LogRecord) : List LogRecord :=
  log.filter (isShown threshold)

def line (entry : LogRecord) : String :=
  entry.logger ++ " - " ++ entry.level.name ++ " - " ++ entry.text

end LogRecord
end RecordSchema
