import FormGate.Command.Request
import FormGate.Config.Schema
import FormGate.Console.Line
import FormGate.Diagnostic.Encoding
import FormGate.Document.Basic

/-!
# Scripts

A command is a script: it is given what was found at the places it asks for, shows lines, has files
written, and ends with a status. A script touches no file itself.
-/

namespace FormGate.Command

open Console

/-- What is found at a path. A path may also be longer than any path can be. -/
inductive Source
  | absent
  | folder
  | overlong
  | text (s : String)
  deriving DecidableEq, Repr

/-- What is found around a command: the page, and the configuration with the path under which it is
shown. -/
structure Surroundings where
  page : Source := .absent
  config : Option (String × Source) := none

/-- One thing that a command does. The folder of a summary is made where it is missing. -/
inductive Action
  | print (l : Line)
  | savePage (path text : String)
  | saveSummary (path : String) (s : Summary)

/-- How a command ends: with a status, by a failure that nobody caught, or where something that it
does cannot be done. -/
inductive Exit
  | status (n : Nat)
  | failed (e : Failure)
  | unreadable
  | overlong
  | undone (reason : String)
  deriving DecidableEq, Repr

/-- The status that is left behind. -/
def Exit.code : Exit → Nat
  | status n => n
  | _ => 1

/-- A command in the making: what it has done so far, until it ends. -/
abbrev Script := ExceptT Exit (StateM (List Action))

namespace Script

def act (a : Action) : Script Unit :=
  modify (· ++ [a])

def say (p : Phrase) : Script Unit :=
  act (.print (.phrase p))

def warn (message : Phrase) : Script Unit :=
  say (.styled "Warning:" :: .own " " :: message)

/-- Shows an error and ends. -/
def refuse {α : Type} (message : Phrase) : Script α := do
  say (.styled "Error:" :: .own " " :: message)
  throw (.status 1)

/-- All that a script does, and how it ends. -/
def run (x : Script Nat) : List Action × Exit :=
  match ExceptT.run x |>.run [] with
  | (.ok n, actions) => (actions, .status n)
  | (.error e, actions) => (actions, e)

end Script

open Script

/-- Line ends as a text file has them when it is read. -/
def unixLines : List Char → List Char
  | '\r' :: '\n' :: rest => '\n' :: unixLines rest
  | c :: rest => (if c = '\r' then '\n' else c) :: unixLines rest
  | [] => []

def fileText (s : String) : String :=
  .ofList (unixLines s.toList)

/-- The configuration to go by. -/
def loadConfig (found : Option (String × Source)) : Script Config :=
  match found with
  | none => return {}
  | some (_, .absent) => return {}
  | some (_, .overlong) => throw .overlong
  | some (path, .folder) => refuse [.quoted (Config.LoadFault.folder.failure path).message]
  | some (path, .text s) =>
    match Config.load path (some (fileText s)) with
    | .ok c => return c
    | .error e => refuse [.quoted e.message]

/-- The configuration to go by, after the log level was checked. -/
def setUp (t : Target) (found : Option (String × Source)) : Script Config := do
  let c ← loadConfig found
  let level := (t.logLevel.filter (!·.isEmpty)).getD c.logLevel.name
  if (Config.LogLevel.ofName? level).isSome then return c
  else
    refuse [.own "Invalid log level '", .quoted level, .own ("'. Must be one of: " ++
      ", ".intercalate (Config.LogLevel.all.map (·.name)))]

/-- The page to work on. -/
def loadPage (t : Target) (found : Source) : Script Document :=
  match found with
  | .absent => refuse [.own "Page not found: ", .quoted t.page]
  | .folder => throw .unreadable
  | .overlong => throw .overlong
  | .text s =>
    match Document.ofText (fileText s) with
    | .ok d => return d
    | .error e => refuse [.quoted e.message]

def diagnosticsTable (ds : List Diagnostic) : Line :=
  .table ["Code", "Severity", "Message", "Field"]
    (ds.map fun d =>
      [[.own d.code], [.styled d.severity.label], [.quoted d.message],
        [.quoted (d.context.field.getD "")]])

def showDiagnostics (ds : List Diagnostic) : Script Unit := do
  say [.own "\n", .styled "Rule diagnostics:"]
  act (.print (diagnosticsTable ds))

end FormGate.Command
