/-!
# Arguments of the command line

An option is given by its name after two dashes or by its letter after one. Its value follows it in
the same argument or in the next one. Letters of options without a value may stand together. After
two dashes alone nothing is an option.
-/

namespace FormGate.Command

/-- An option that may be given. -/
structure OptionForm where
  name : String
  letter : Option Char := none
  takesValue : Bool := true

/-- What was given: options with their values, and the other words, each in order. -/
structure Given where
  options : List (String × String) := []
  words : List String := []

namespace Given

def withOptions (given : List (String × String)) (g : Given) : Given :=
  { g with options := given ++ g.options }

def withWord (word : String) (g : Given) : Given :=
  { g with words := word :: g.words }

def values (g : Given) (name : String) : List String :=
  (g.options.filter (·.1 == name)).map (·.2)

def last? (g : Given) (name : String) : Option String :=
  (g.values name).getLast?

end Given

namespace Arguments

/-- The options that one argument gives, and the name of the last one where its value has to
follow. -/
abbrev Step := List (String × String) × Option String

/-- The options of an argument after its two dashes. -/
def named? (forms : List OptionForm) (body : List Char) : Option Step :=
  let name := String.ofList (body.takeWhile (· != '='))
  match forms.find? (·.name == name), body.dropWhile (· != '=') with
  | none, _ => none
  | some f, [] => if f.takesValue then some ([], some name) else some ([(name, "")], none)
  | some f, _ :: value => if f.takesValue then some ([(name, .ofList value)], none) else none

/-- The options of an argument after its single dash. -/
def lettered? (forms : List OptionForm) : List Char → Option Step
  | [] => some ([], none)
  | c :: rest =>
    match forms.find? (·.letter == some c) with
    | none => none
    | some f =>
      if !f.takesValue then (lettered? forms rest).map fun p => ((f.name, "") :: p.1, p.2)
      else if rest.isEmpty then some ([], some f.name)
      else some ([(f.name, .ofList rest)], none)

/-- Reads arguments. Where options may not come after a word, the first word ends them. -/
def read? (forms : List OptionForm) (afterWords : Bool) : List String → Option Given
  | [] => some {}
  | arg :: rest =>
    match arg.toList with
    | ['-', '-'] => some { words := rest }
    | '-' :: c :: more =>
      match if c = '-' then named? forms more else lettered? forms (c :: more) with
      | none => none
      | some (given, none) => (read? forms afterWords rest).map (·.withOptions given)
      | some (given, some name) =>
        match rest with
        | [] => none
        | value :: rest =>
          (read? forms afterWords rest).map (·.withOptions (given ++ [(name, value)]))
    | _ =>
      if afterWords then (read? forms afterWords rest).map (·.withWord arg)
      else some { words := arg :: rest }

end Arguments

end FormGate.Command
