import DiagramStudio.Json.Printer
import DiagramStudio.Json.Record

/-!
# Results

What a caller learns about one request for a diagram, and its JSON form.
-/

namespace DiagramStudio

open Json

inductive Status
  | success
  | error
  deriving Repr, DecidableEq

namespace Status

def name : Status → String
  | success => "success"
  | error => "error"

def ofName? (name : String) : Option Status :=
  if name = "success" then some success
  else if name = "error" then some error
  else none

/-- Reads a status: its name, or an object whose only member has that name and is null. -/
def decode? : Source → Option Status
  | .string s => s.bind ofName?
  | .object [(some name, .null)] => ofName? name
  | _ => none

end Status

/-- The result of one request. The optional parts are left out of its JSON form when absent. -/
structure DiagramResult where
  status : Status
  diagramCode : String
  diagramType : String
  description : String
  title : String
  model : Option String
  platform : Option String
  error : Option String
  deriving Repr, DecidableEq

namespace DiagramResult

/-- An optional member of the JSON form. -/
def optionalMember (key : String) (s : Option String) : List (String × Value) :=
  match s with
  | some s => [(key, .string s)]
  | none => []

def json (r : DiagramResult) : Value :=
  .object ([
    ("status", .string r.status.name),
    ("diagram_code", .string r.diagramCode),
    ("diagram_type", .string r.diagramType),
    ("description", .string r.description),
    ("title", .string r.title)] ++
    optionalMember "model" r.model ++ optionalMember "platform" r.platform ++
    optionalMember "error" r.error)

/-- The names of the fields in the JSON form, in order. -/
def fieldNames : List String :=
  ["status", "diagram_code", "diagram_type", "description", "title", "model", "platform", "error"]

def decode? (source : Source) : Option DiagramResult := do
  let fields ← source.fields? fieldNames
  return {
    status := ← fields.required? "status" Status.decode?
    diagramCode := ← fields.required? "diagram_code" Source.text?
    diagramType := ← fields.required? "diagram_type" Source.text?
    description := ← fields.required? "description" Source.text?
    title := ← fields.required? "title" Source.text?
    model := ← fields.optional? "model" Source.text?
    platform := ← fields.optional? "platform" Source.text?
    error := ← fields.optional? "error" Source.text? }

/-- The text that is printed for a result. -/
def print (r : DiagramResult) : Text := r.json.print .indented

end DiagramResult

end DiagramStudio
