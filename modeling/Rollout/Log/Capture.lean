import Rollout.Log.Record
import Rollout.Text.Decimal

set_option autoImplicit false

namespace Rollout.Log

abbrev Capture := List Record

namespace Capture

def withField (capture : Capture) (name value : String) : Capture :=
  capture.filter fun record => record.field? name = some value

def countLevel (capture : Capture) (level : String) : Nat :=
  capture.countP fun record => record.level.name = level

def requireEvent (capture : Capture) (operation event : String) : Except String Unit :=
  if capture.any fun record =>
      record.operation? = some operation && record.event? = some event then .ok ()
  else
    .error ("Expected event op=" ++ operation ++ " event=" ++ event ++ " not found in " ++
      Text.decimal capture.length ++ " captured events")

end Capture

end Rollout.Log
