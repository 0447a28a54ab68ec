import RecordSchema.Name

/-!
# Reports

What comes out of checking a record: whether it is valid, the messages under the names of the
fields that failed, and the data, which is the checked part of a valid record and the whole of
an invalid one.  Reports can be merged.  Checking gives texts for messages; whoever adds to a
report by hand may put any value there.
-/

namespace RecordSchema

/-- What comes out of checking a record. -/
structure Report where
  valid : Bool := true
  errors : Fields (List Value) Name := []
  data : Fields Value := []
  deriving Repr

namespace Report

def messagesOf (report : Report) (field : Name) : List Value :=
  (report.errors.get? field).getD []

/-- Add a message about a field, which makes the report invalid. -/
def addError (report : Report) (field : Name) (message : Value) : Report :=
  { report with
    valid := false
    errors := report.errors.put field (report.messagesOf field ++ [message]) }

def addErrors (report : Report) (field : Name) (messages : List Value) : Report :=
  messages.foldl (fun done message => done.addError field message) report

/-- Whether any field is listed with messages. -/
def hasErrors (report : Report) : Bool :=
  !report.errors.isEmpty

def firstError? (report : Report) (field : Name) : Option Value :=
  (report.messagesOf field).head?

/-- Take over the messages, the data and the verdict of another report.  Its messages come
behind one's own, and its data win. -/
def merge (report other : Report) : Report :=
  let joined := other.errors.foldl (fun done entry => done.addErrors entry.1 entry.2) report
  { joined with
    valid := joined.valid && other.valid
    data := joined.data.putAll other.data }

def errorsDocument (report : Report) : Value :=
  .map (report.errors.written.map fun entry => (entry.1, .list entry.2))

def toDocument (report : Report) : Value :=
  .map [("valid", .bool report.valid), ("errors", report.errorsDocument),
    ("data", .map report.data)]

def summary (report : Report) : String :=
  let errors := report.errors.map fun entry =>
    entry.1.value.quoted ++ ": " ++ (Value.list entry.2).quoted
  "ValidationResult(valid=" ++ (Value.bool report.valid).quoted ++ ", errors=\x7b" ++
    Text.join ", " errors ++ "\x7d, data=" ++ (Value.map report.data).quoted ++ ")"

end Report
end RecordSchema
