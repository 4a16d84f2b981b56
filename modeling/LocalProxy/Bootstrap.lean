import LocalProxy.Files
import LocalProxy.Log.Record

/-! The first start: a home directory and a configuration file are made where none is. -/
namespace LocalProxy

/-- What is written where there is no configuration file. -/
def defaultConfigText : String := "mixed-port: 7890\n"

inductive BootstrapFault
  | directory (path : String) (cause : FileFault)
  | file (path : String) (cause : FileFault)
deriving DecidableEq, Repr

namespace BootstrapFault

def message : BootstrapFault → String
  | directory path _ => "Can't create config directory " ++ path
  | file path _ => "Can't create file " ++ path

def cause : BootstrapFault → FileFault
  | directory _ cause => cause
  | file _ cause => cause

end BootstrapFault

/-- A tree with the records written on the way. -/
structure Bootstrap where
  files : Files
  records : List Record := []
deriving DecidableEq, Repr

namespace Bootstrap

/-- `locate` gives the place in the tree that a path means. -/
def makeHome (locate : String → String) (home : String) (b : Bootstrap) :
    Bootstrap × Except BootstrapFault Unit :=
  if b.files.isThere (locate home) then (b, .ok ())
  else match b.files.makeDirectories (locate home) with
    | .ok files => ({ b with files := files }, .ok ())
    | .error e => (b, .error (.directory home e))

def writeConfig (locate : String → String) (path : String) (b : Bootstrap) :
    Bootstrap × Except BootstrapFault Unit :=
  if b.files.isThere (locate path) then (b, .ok ())
  else
    let b := { b with records := b.records ++
      [Record.of .info "Config file not found, creating a default one" [("config", .text path)]] }
    let parent := (Path.parent? path).getD ""
    match if parent = "" then Except.ok b.files else b.files.makeDirectories (locate parent) with
    | .error e => (b, .error (.directory parent e))
    | .ok files =>
      match files.write (locate path) (Text.utf8 defaultConfigText) with
      | .error e => ({ b with files := files }, .error (.file path e))
      | .ok files => ({ b with files := files }, .ok ())

/-- Makes the home directory, then the configuration file. -/
def run (locate : String → String) (home config : String) (files : Files) :
    Bootstrap × Except BootstrapFault Unit :=
  match makeHome locate home ⟨files, []⟩ with
  | (b, .error e) => (b, .error e)
  | (b, .ok ()) => writeConfig locate config b

end Bootstrap

end LocalProxy
