import LocalProxy.Bootstrap
import LocalProxy.Log.Filter
import LocalProxy.Options
import LocalProxy.Server
import LocalProxy.Settings

/-! The program from its arguments to its exit: options and environment are settled, the
configuration is tested or loaded, and the server is started. -/
namespace LocalProxy

/-- How the program is started. `account` is the home of the user where the environment names
none, and `directory` the one relative paths start from. -/
structure Launch where
  arguments : List String
  environment : String → Option String
  account : Option String
  directory : String

/-- Why the program ends early. -/
inductive ProgramFault
  | noHome
  | bootstrap (fault : BootstrapFault)
  | load (path : String) (fault : ConfigFault)
  | serve (fault : ServeFault)
deriving DecidableEq, Repr

namespace ProgramFault

/-- The fault and what is behind it, the outermost first. -/
def causes : ProgramFault → List String
  | noHome => ["Could not determine home directory"]
  | bootstrap fault => ["Server bootstrap failed", fault.message, fault.cause.message]
  | load path fault => ("Failed to load " ++ path) :: fault.causes
  | serve fault => fault.causes

/-- A cause below the first, its lines indented. With several causes each has its number. -/
def causeText (number : Option Nat) (cause : String) : String :=
  let (first, other) := match number with
    | some n => (String.ofList ((toString n).toList.leftpad 5 ' ') ++ ": ", "       ")
    | none => ("    ", "    ")
  first ++ ("\n" ++ other).intercalate (Text.fields '\n' cause)

def report : List String → String
  | [] => ""
  | [cause] => "Error: " ++ cause ++ "\n"
  | cause :: below =>
    let numbered := below.zipIdx.map fun (c, i) =>
      causeText (if below.length = 1 then none else some i) c
    "Error: " ++ cause ++ "\n\nCaused by:\n" ++ "\n".intercalate numbered ++ "\n"

/-- What is written of a fault that ends the program. -/
def text (fault : ProgramFault) : String := report fault.causes

end ProgramFault

/-- A log record with the part of the program it comes from. -/
structure Entry where
  target : String
  record : Record
deriving DecidableEq, Repr

namespace Entry

/-- A record as one line of JSON. -/
def json (e : Entry) : Json :=
  .obj [("level", .str e.record.severity.label), ("fields", e.record.json),
    ("target", .str e.target)]

def line (format : LogFormat) (e : Entry) : String :=
  match format with
  | .json => e.json.text
  | .text => e.record.severity.label ++ " " ++ e.target ++ ": " ++ e.record.payload

end Entry

/-- How the program ended, or that it serves. -/
inductive Course (σ : Type)
  | usage (fault : UsageFault)
  | shown (text : String)
  | tested (passed : Bool)
  | failed (fault : ProgramFault)
  | serving (server : Server σ)

namespace Course

variable {σ : Type}

def code : Course σ → Nat
  | usage _ => 2
  | shown _ => 0
  | tested passed => if passed then 0 else 1
  | failed _ => 1
  | serving _ => 0

/-- What the program says besides its log. -/
def output : Course σ → String
  | shown text => text
  | _ => ""

/-- What the program says of its failure. -/
def complaint : Course σ → String
  | usage fault => fault.text
  | failed fault => fault.text
  | _ => ""

end Course

/-- A run of the program: its log as far as the filter lets it pass, the files it leaves, and
its course. -/
structure Run (σ : Type) where
  format : LogFormat := .text
  entries : List Entry := []
  files : Files
  course : Course σ

namespace Launch

/-- A path as seen from the directory of the program. -/
def absolute (l : Launch) (path : String) : String := Path.join l.directory path

/-- The environment's settings with the options on top. The option for the home directory moves
the configuration file with it. -/
def settings (l : Launch) (o : Options) : Option Settings := do
  let s ← Settings.ofEnvironment l.environment l.account
  let s := match o.directory with
    | some d =>
      let home := l.absolute d
      { s with homeDir := home, configPath := Path.join home configFile }
    | none => s
  let s := match o.config with
    | some c => { s with configPath := l.absolute c }
    | none => s
  return { s with
    externalController := o.externalController.or s.externalController
    secret := o.secret.or s.secret }

/-- The filter of the environment, or one for the more important records. -/
def filter (l : Launch) : LogFilter :=
  ((l.environment "RUST_LOG").bind LogFilter.parse?).getD (.ofThreshold (some .info))

def readConfig (l : Launch) (path : String) (files : Files) : Except ConfigFault Config :=
  Config.load path (files.read (l.absolute path))

def entry (record : Record) : Entry := ⟨programName, record⟩

def entryOf (part : String) (record : Record) : Entry := ⟨programName ++ "::" ++ part, record⟩

variable {σ : Type}

/-- Looks at the configuration file and does nothing else. -/
def test (l : Launch) (s : Settings) (files : Files) : List Entry × Course σ :=
  let config := ("config", FieldValue.text s.configPath)
  match l.readConfig s.configPath files with
  | .ok _ => ([entry (.of .info "Configuration file test succeeded" [config])], .tested true)
  | .error fault =>
    ([entry (.of .error "Configuration file test failed"
      [config, ("error", .text fault.message)])], .tested false)

/-- Starts a server with a configuration. `host` is the outside as the program finds it. -/
def serve (d : Host σ) (host : σ) (s : Settings) (c : Config) : List Entry × Course σ :=
  let started := entry (.of .info "Starting portico"
    [("version", .text version), ("config", .text s.configPath)])
  let hub : Hub σ := .create host s.configPath ⟨s.externalController, s.secret⟩ subscriberBuffer
  let (result, hub) := Server.start d hub c
  let entries := started :: hub.manager.records.map (entryOf "server")
  match result with
  | .ok server => (entries, .serving server)
  | .error fault => (entries, .failed (.serve fault))

/-- Prepares the home directory, loads the configuration and serves it. -/
def launch (l : Launch) (d : Host σ) (host : σ) (s : Settings) (files : Files) :
    List Entry × Files × Course σ :=
  match Bootstrap.run l.absolute s.homeDir s.configPath files with
  | (b, .error fault) =>
    (b.records.map (entryOf "bootstrap"), b.files, .failed (.bootstrap fault))
  | (b, .ok ()) =>
    let prepared := b.records.map (entryOf "bootstrap")
    match l.readConfig s.configPath b.files with
    | .error fault => (prepared, b.files, .failed (.load s.configPath fault))
    | .ok c =>
      let (entries, course) := serve d host s c
      (prepared ++ entries, b.files, course)

/-- The paths a run looks at. -/
def paths (l : Launch) : List String :=
  match Options.parse l.arguments with
  | .ok (.run options) =>
    match l.settings options with
    | some s => [l.absolute s.homeDir, l.absolute s.configPath]
    | none => []
  | _ => []

/-- The whole program. -/
def run (l : Launch) (d : Host σ) (host : σ) (files : Files) : Run σ :=
  match Options.parse l.arguments with
  | .error fault => { files := files, course := .usage fault }
  | .ok .help => { files := files, course := .shown Options.helpText }
  | .ok .version => { files := files, course := .shown Options.versionText }
  | .ok (.run options) =>
    match l.settings options with
    | none => { files := files, course := .failed .noHome }
    | some s =>
      let (entries, files, course) :=
        if options.testConfig then
          let (entries, course) := l.test s files
          (entries, files, course)
        else l.launch d host s files
      { format := s.logFormat
        entries := entries.filter fun e => l.filter.passes e.target e.record.severity
        files := files
        course := course }

end Launch

end LocalProxy
