import FormGate.Command.Run

/-!
# The command line

Reads the files that a request is about, runs the request, and carries out what it asks for.
-/

namespace FormGate.Command

/-- What is found at a path. -/
def lookUp (path : String) : IO Source := do
  try
    return .text (← IO.FS.readFile path)
  catch e =>
    match e with
    | .noFileOrDirectory _ _ _ => return .absent
    | .invalidArgument _ _ _ => return .overlong
    | _ => return .folder

/-- The first of the places at which something is found. -/
def firstFound (places : List String) : IO (Option (String × Source)) := do
  for path in places do
    match ← lookUp path with
    | .absent => pure ()
    | found => return some (path, found)
  return none

/-- What is found around a request. -/
def surroundings (r : Request) : IO Surroundings := do
  match r.target with
  | none => return {}
  | some t =>
    let config ← match t.config with
      | some path => pure (some (path, ← lookUp path))
      | none => firstFound (Path.configPlaces (← IO.currentDir).toString)
    return { page := ← lookUp t.page, config }

/-- Does one thing, or tells why it cannot be done. -/
def perform (a : Action) : IO (Option String) := do
  try
    match a with
    | .print l => l.render.forM IO.println
    | .savePage path text => IO.FS.writeFile path text
    | .saveSummary path s =>
      IO.FS.createDirAll (Path.folder path)
      IO.FS.writeFile path (s.toJson.pretty false)
    return none
  catch e => return some e.toString

/-- What is said of the end of a program, unless it came to a status. -/
def Exit.complaint? : Exit → Option String
  | .status _ => none
  | .failed e => some (e.typeName ++ ": " ++ e.message)
  | .unreadable => some "The page cannot be read."
  | .overlong => some "A path is too long."
  | .undone reason => some reason

end FormGate.Command

open FormGate.Command in
/-- Runs the request that the arguments make. -/
def main (args : List String) : IO UInt32 := do
  match Request.read? args with
  | none =>
    IO.eprintln "Usage: formcheck [--version] rules | lint PAGE | check PAGE"
    return usageStatus.toUInt32
  | some r =>
    let exit ← r.execute perform (← surroundings r)
    exit.complaint?.forM IO.eprintln
    return exit.code.toUInt32
