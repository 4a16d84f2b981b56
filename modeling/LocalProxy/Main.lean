import LocalProxy.Program

/-! The command line of the program. What it looks at is gathered first, the program runs on
that, and what it changed is written back. -/
namespace LocalProxy.Main

/-- The environment variables that matter. -/
def variableNames : List String :=
  ["PORTICO_HOME", "PORTICO_CONFIG", "PORTICO_EXTERNAL_CONTROLLER", "PORTICO_SECRET",
   "PORTICO_LOG_FORMAT", "RUST_LOG", "HOME", "XDG_CONFIG_HOME"]

/-- The node at a path, if there is one. -/
def probe (path : String) : IO (Option FileNode) := do
  let place := (← IO.currentDir) / path
  if ← place.isDir then return some .directory
  if ← place.pathExists then
    return some (.file (← IO.FS.readBinFile place).data.toList)
  return none

/-- Adds what is found at a path and above it. -/
def gather (files : Files) (path : String) : IO Files := do
  let steps := Path.steps path
  let mut files := files
  for size in List.range (steps.length + 1) do
    let above := steps.take size
    match ← probe ("/" ++ "/".intercalate above) with
    | some node => files := files.insert above node
    | none => pure ()
  return files

/-- Makes a node that was not there. -/
def restore (before : Files) (steps : List String) (node : FileNode) : IO Unit := do
  if before.node? steps = some node then return
  let path := "/" ++ "/".intercalate steps
  match node with
  | .directory => IO.FS.createDirAll path
  | .file content => IO.FS.writeBinFile path ⟨content.toArray⟩

def unsupported : String := "Operation not supported (os error 95)"

/-- The outside of a program that has no sockets: every bind is refused. -/
def host : Host Unit where
  serves := servedByDefault
  listen network service _ := (.error (.bind network service.address unsupported), ())
  close _ _ := (none, ())
  configFile _ := .error .missing
  exchange r _ _ := (r.exchange (fun _ => .unsent unsupported) 0, ())
  failures r _ _ := r.failures (fun _ => .unsent unsupported) 0
  names _ := none
  openApi _ _ := (.error unsupported, ())
  closeApi _ _ := ()

def run (arguments : List String) : IO UInt32 := do
  let environment ← variableNames.mapM fun name => do return (name, ← IO.getEnv name)
  let launch : Launch := {
    arguments := arguments
    environment := fun name => (environment.lookup name).join
    account := none
    directory := (← IO.currentDir).toString }
  let before ← launch.paths.foldlM gather (⟨[]⟩ : Files)
  let run := launch.run host () before
  for (steps, node) in run.files.nodes.mergeSort fun a b => a.1.length ≤ b.1.length do
    restore before steps node
  let output ← IO.getStdout
  output.putStr run.course.output
  for entry in run.entries do
    output.putStrLn (entry.line run.format)
  (← IO.getStderr).putStr run.course.complaint
  return run.course.code.toUInt32

end LocalProxy.Main

def main (arguments : List String) : IO UInt32 := LocalProxy.Main.run arguments
