import Deprecation.Config
import Deprecation.Text.Blank
import Deprecation.Text.Lowercase

/-!
Overrides of the settings by environment variables.  One variable switches warnings on or off, the
other selects the channel.  A value is compared without the blanks around it and in lowercase; a
value that is no known word changes nothing.
-/

namespace Deprecation

/-- The values of the two variables, as far as they are set. -/
structure Environment where
  warnings : Option String := none
  channel : Option String := none
deriving DecidableEq, Repr, Inhabited

namespace Environment

def warningsVariable : String := "SUNSET_DEPRECATION_WARNINGS"

def channelVariable : String := "SUNSET_DEPRECATION_SINK"

def ofLookup (lookup : String → Option String) : Environment :=
  ⟨lookup warningsVariable, lookup channelVariable⟩

end Environment

namespace Config

def normalWord (text : String) : String :=
  String.ofList (Text.lowercase (Text.trim text.toList))

def switchWords : List (String × Bool) :=
  [("0", false), ("false", false), ("off", false), ("no", false),
    ("1", true), ("true", true), ("on", true), ("yes", true)]

def channelWords : List (String × Channel) :=
  Channel.options ++ [("null", .discard)]

def switch? (text : String) : Option Bool :=
  switchWords.lookup (normalWord text)

def channel? (text : String) : Option Channel :=
  channelWords.lookup (normalWord text)

def override (config : Config) (environment : Environment) : Config :=
  { config with
    enabled := (environment.warnings.bind switch?).getD config.enabled
    channel := (environment.channel.bind channel?).getD config.channel }

end Config

end Deprecation
