/-!
# Paths

A path on the command line is shown without the parts that do nothing: doubled slashes, slashes at
the end, and single dots.
-/

namespace FormGate.Command.Path

def configName : String := ".formcheck.json"

/-- The parts of a path that lead somewhere. -/
def parts (path : String) : List String :=
  (path.splitOn "/").filter fun p => !p.isEmpty && p != "."

/-- The slashes that open an absolute path: two are kept, three or more count as one. -/
def opening (path : String) : String :=
  match (path.toList.takeWhile (· == '/')).length with
  | 0 => ""
  | 2 => "//"
  | _ => "/"

/-- A path without the parts that do nothing. -/
def normal (path : String) : String :=
  let s := opening path ++ "/".intercalate (parts path)
  if s.isEmpty then "." else s

/-- The folders from an absolute path up to the root. -/
def ancestors (path : String) : List String :=
  let ps := parts path
  (List.range (ps.length + 1)).reverse.map fun n => "/" ++ "/".intercalate (ps.take n)

/-- A name inside a folder. -/
def inside (folder name : String) : String :=
  if folder.endsWith "/" then folder ++ name else folder ++ "/" ++ name

/-- The folder that a path lies in. -/
def folder (path : String) : String :=
  let ps := (parts path).dropLast
  normal (opening path ++ "/".intercalate ps)

def configPlaces (folder : String) : List String :=
  (ancestors folder).map fun f => inside f configName

end FormGate.Command.Path
