import LocalProxy.Text

/-! The command line: what its arguments ask for. -/
namespace LocalProxy

def programName : String := "portico"

def version : String := "0.1.0"

/-- What the arguments set. -/
structure Options where
  directory : Option String := none
  config : Option String := none
  testConfig : Bool := false
  externalController : Option String := none
  secret : Option String := none
deriving DecidableEq, Repr

inductive OptionName
  | directory
  | config
  | testConfig
  | externalController
  | secret
  | help
  | version
deriving DecidableEq, Repr

inductive Invocation
  | run (options : Options)
  | help
  | version
deriving DecidableEq, Repr

inductive UsageFault
  | unexpected (argument : String)
  | missingValue (name : OptionName)
  | emptyValue (name : OptionName)
  | valueGiven (name : OptionName) (value : String)
  | repeated (name : OptionName)
deriving DecidableEq, Repr

namespace OptionName

def all : List OptionName :=
  [directory, config, testConfig, externalController, secret, help, version]

def long : OptionName → String
  | directory => "directory"
  | config => "config"
  | testConfig => "test-config"
  | externalController => "ext-ctl"
  | secret => "secret"
  | help => "help"
  | version => "version"

def short? : OptionName → Option Char
  | directory => some 'd'
  | config => some 'f'
  | testConfig => some 't'
  | help => some 'h'
  | version => some 'V'
  | externalController | secret => none

/-- What the value is called, for an option that takes one. -/
def value? : OptionName → Option String
  | directory => some "DIRECTORY"
  | config => some "CONFIG"
  | externalController => some "EXTERNAL_CONTROLLER"
  | secret => some "SECRET"
  | testConfig | help | version => none

def about : OptionName → String
  | directory => "Home directory"
  | config => "Configuration file path"
  | testConfig => "Test the configuration file and exit"
  | externalController => "Override the control API address"
  | secret => "Override the control API secret"
  | help => "Print help"
  | version => "Print version"

def ofLong? (s : String) : Option OptionName := all.find? (·.long == s)

def ofShort? (c : Char) : Option OptionName := all.find? (·.short? == some c)

/-- The long name, with what its value is called. -/
def usage (n : OptionName) : String :=
  let value := match n.value? with
    | some v => " <" ++ v ++ ">"
    | none => ""
  "--" ++ n.long ++ value

/-- Both names; the long ones stand below each other. -/
def spellings (n : OptionName) : String :=
  let short := match n.short? with
    | some c => "-" ++ .singleton c ++ ", "
    | none => "    "
  short ++ n.usage

end OptionName

def UsageFault.text (fault : UsageFault) : String :=
  let usage := "\n\nUsage: " ++ programName ++ " [OPTIONS]"
  let reason := match fault with
    | unexpected argument => "unexpected argument '" ++ argument ++ "' found" ++ usage
    | missingValue n | emptyValue n =>
      "a value is required for '" ++ n.usage ++ "' but none was supplied"
    | valueGiven n v =>
      "unexpected value '" ++ v ++ "' for '" ++ n.usage ++ "' found; no more were expected" ++ usage
    | repeated n => "the argument '" ++ n.usage ++ "' cannot be used multiple times" ++ usage
  "error: " ++ reason ++ "\n\nFor more information, try '--help'.\n"

namespace Options

/-- Sets an option that takes a value. A path must not be empty. -/
def set (o : Options) (n : OptionName) (v : String) : Except UsageFault Options :=
  match n with
  | .directory =>
    if o.directory.isSome then .error (.repeated n)
    else if v = "" then .error (.emptyValue n)
    else .ok { o with directory := some v }
  | .config =>
    if o.config.isSome then .error (.repeated n)
    else if v = "" then .error (.emptyValue n)
    else .ok { o with config := some v }
  | .externalController =>
    if o.externalController.isSome then .error (.repeated n)
    else .ok { o with externalController := some v }
  | .secret =>
    if o.secret.isSome then .error (.repeated n) else .ok { o with secret := some v }
  | n => .error (.valueGiven n v)

/-- What one argument does: it is complete, the value of its last option is yet to come, or it
ends the reading. -/
inductive Taken
  | complete (options : Options)
  | awaiting (options : Options) (name : OptionName)
  | ending (invocation : Invocation)
deriving DecidableEq, Repr

/-- Takes an option that takes no value. -/
def flag (o : Options) (n : OptionName) : Except UsageFault Taken :=
  match n with
  | .help => .ok (.ending .help)
  | .version => .ok (.ending .version)
  | .testConfig =>
    if o.testConfig then .error (.repeated n) else .ok (.complete { o with testConfig := true })
  | n => .error (.missingValue n)

/-- Takes `name` or `name=value`. -/
def takeLong (o : Options) (s : String) : Except UsageFault Taken :=
  let (name, value) := match Text.splitOnce "=" s with
    | some (name, value) => (name, some value)
    | none => (s, none)
  match OptionName.ofLong? name with
  | none => .error (.unexpected ("--" ++ name))
  | some n =>
    match n.value?.isSome, value with
    | true, some v => (o.set n v).map .complete
    | true, none => .ok (.awaiting o n)
    | false, some v => .error (.valueGiven n v)
    | false, none => o.flag n

/-- Takes letters one after the other. What follows the letter of an option that takes a value
is that value, less one `=` in front. -/
def takeShort (o : Options) : List Char → Except UsageFault Taken
  | [] => .ok (.complete o)
  | c :: rest =>
    match OptionName.ofShort? c with
    | none => .error (.unexpected ("-" ++ .singleton c))
    | some n =>
      if n.value?.isSome then
        match rest with
        | [] => .ok (.awaiting o n)
        | '=' :: v => (o.set n (.ofList v)).map .complete
        | v => (o.set n (.ofList v)).map .complete
      else match o.flag n with
        | .ok (.complete o) => takeShort o rest
        | other => other

def take (o : Options) (argument : String) : Except UsageFault Taken :=
  match argument.toList with
  | '-' :: '-' :: name => o.takeLong (.ofList name)
  | '-' :: c :: letters => o.takeShort (c :: letters)
  | _ => .error (.unexpected argument)

/-- A lone hyphen is a value like any other. -/
def isOption (argument : String) : Bool :=
  argument.toList.head? == some '-' && argument ≠ "-"

def parseFrom (o : Options) : List String → Except UsageFault Invocation
  | [] => .ok (.run o)
  | "--" :: rest =>
    match rest with
    | [] => .ok (.run o)
    | argument :: _ => .error (.unexpected argument)
  | argument :: rest =>
    match o.take argument with
    | .error fault => .error fault
    | .ok (.ending invocation) => .ok invocation
    | .ok (.complete o) => parseFrom o rest
    | .ok (.awaiting o n) =>
      match rest with
      | [] => .error (.missingValue n)
      | value :: rest =>
        if isOption value then .error (.missingValue n)
        else match o.set n value with
          | .error fault => .error fault
          | .ok o => parseFrom o rest

/-- Reads the arguments from left to right; the first that is wrong, or that asks for help or
the version, ends the reading. -/
def parse (arguments : List String) : Except UsageFault Invocation := parseFrom {} arguments

def helpLine (width : Nat) (n : OptionName) : String :=
  "  " ++ .ofList (n.spellings.toList.rightpad width ' ') ++ "  " ++ n.about ++ "\n"

def helpText : String :=
  let width := (OptionName.all.map (·.spellings.length)).foldl max 0
  "Rule-based local proxy: inbound listener orchestration and control API\n\nUsage: " ++
    programName ++ " [OPTIONS]\n\nOptions:\n" ++ String.join (OptionName.all.map (helpLine width))

def versionText : String := programName ++ " " ++ version ++ "\n"

end Options

end LocalProxy
