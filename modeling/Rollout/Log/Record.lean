set_option autoImplicit false

namespace Rollout

namespace Log

inductive Level where
  | debug
  | info
  | error
  deriving DecidableEq

def Level.name : Level → String
  | .debug => "DEBUG"
  | .info => "INFO"
  | .error => "ERROR"

/-- No two fields of a record have the same name. -/
structure Record where
  level : Level
  fields : List (String × String)
  deriving DecidableEq

namespace Record

def field? (record : Record) (name : String) : Option String :=
  record.fields.lookup name

def operation? (record : Record) : Option String := record.field? "op"

def event? (record : Record) : Option String := record.field? "event"

end Record

def field? (name : String) (value? : Option String) : List (String × String) :=
  match value? with
  | some value => [(name, value)]
  | none => []

end Log

end Rollout
