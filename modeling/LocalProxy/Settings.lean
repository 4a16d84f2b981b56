import LocalProxy.Files

/-! The settings of the process: where its files are, and what the environment overrides. -/
namespace LocalProxy

inductive LogFormat
  | text
  | json
deriving DecidableEq, Repr

def LogFormat.name : LogFormat → String
  | text => "text"
  | json => "json"

/-- The name of the configuration file in the home directory. -/
def configFile : String := "config.yaml"

structure Settings where
  homeDir : String
  configPath : String
  externalController : Option String
  secret : Option String
  logFormat : LogFormat
deriving DecidableEq, Repr

namespace Settings

/-- The home directory for a user: under the configuration directory of the desktop if that is
absolute, else under the home of the user, which `account` gives where the environment does
not. -/
def defaultHome (env : String → Option String) (account : Option String) : Option String := do
  let user ← (env "HOME").filter (· ≠ "") <|> account
  let base := ((env "XDG_CONFIG_HOME").filter Path.isAbsolute).getD (Path.join user ".config")
  return Path.join base "portico"

/-- The settings that an environment gives, unless no home directory can be found. -/
def ofEnvironment (env : String → Option String) (account : Option String) : Option Settings := do
  let home ← env "PORTICO_HOME" <|> defaultHome env account
  return {
    homeDir := home
    configPath := (env "PORTICO_CONFIG").getD (Path.join home configFile)
    externalController := env "PORTICO_EXTERNAL_CONTROLLER"
    secret := env "PORTICO_SECRET"
    logFormat :=
      if (env "PORTICO_LOG_FORMAT").any (Text.sameLetters "json") then .json else .text }

end Settings

end LocalProxy
