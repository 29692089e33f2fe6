import FormGate.Console.Table
import FormGate.Json.Writer

/-!
# Lines

A command shows phrases, tables and JSON, one below the other.
-/

namespace FormGate.Console

/-- Something that is shown. -/
inductive Line
  | phrase (p : Phrase)
  | table (header : List String) (rows : List (List Phrase))
  | json (j : Json)

/-- The lines of the console that something takes up. JSON is not wrapped. -/
def Line.render : Line → List String
  | .phrase p => (wrap .fold consoleWidth p.shown).map .ofList
  | .table header rows => drawTable header rows
  | .json j => (j.pretty true).splitOn "\n"

end FormGate.Console
