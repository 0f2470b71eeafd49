import FixtureImages.Config
import FixtureImages.Log

/-!
# Set-up of logging

The level of all logging is set once, by the first configuration; the level of this library's own
records follows the latest one.
-/

namespace FixtureImages

set_option autoImplicit false

def logFormat : String := "[%(asctime)s] [%(levelname)s] %(name)s: %(message)s"

/-- The levels of all records and of this library's own, and the format once there is one. -/
structure LogSettings where
  all : LogLevel
  own : LogLevel
  format : Option String
deriving DecidableEq

namespace LogSettings

def initial : LogSettings := ⟨.warning, .warning, none⟩

def levelOf (debug : Bool) : LogLevel := if debug then .debug else .info

/-- Set up logging for a configuration that does or does not ask for details. -/
def setUp (settings : LogSettings) (debug : Bool) : LogSettings :=
  let level := levelOf debug
  match settings.format with
  | none => ⟨level, level, some logFormat⟩
  | some format => ⟨settings.all, level, some format⟩

end LogSettings

end FixtureImages
