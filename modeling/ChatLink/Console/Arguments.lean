/-
# The command line

What the program is asked to do: run with a configuration, or print its usage and end.
-/
import ChatLink.Journal

namespace ChatLink

/-- What the program prints and the code with which it ends. -/
structure Farewell where
  code : Nat
  output : List Text
  errors : List Text
deriving DecidableEq, Repr

/-- The arguments of a run. -/
structure Arguments where
  /-- The file with the configuration. -/
  configPath : Text
  /-- How much of the journal is shown. -/
  level : Level
deriving DecidableEq, Repr

namespace Arguments

/-- How the program is used. -/
def usage : List Text := [
  "Usage: ircbridge --config <FILE> [OPTIONS]",
  [],
  "Options:",
  "  --config <FILE>         Bridge config JSON",
  "  --log-level <LEVEL>     off, error, warn, info, debug, trace (default: info)",
  "  --help, -h              Show this help"]

/-- Ends the program over a mistake in its arguments. -/
def fail (mistake : String) : Farewell := ⟨1, [], [mistake.toList]⟩

/-- Reads the arguments after those already understood. -/
def readFrom (path : Option Text) (level : Level) : List Text → Except Farewell Arguments
  | [] =>
    match path with
    | some path => .ok ⟨path, level⟩
    | none => .error ⟨1, usage, ["--config is required"]⟩
  | arg :: rest =>
    if arg = "--config" then
      match rest with
      | path :: rest => readFrom (some path) level rest
      | [] => .error (fail "--config requires a file path")
    else if arg = "--log-level" then
      match rest with
      | name :: rest =>
        match Level.ofText? name with
        | some level => readFrom path level rest
        | none => .error levelMistake
      | [] => .error levelMistake
    else if arg = "--help" ∨ arg = "-h" then .error ⟨0, usage, []⟩
    else .error ⟨1, usage, ["Unknown argument: " ++ arg]⟩
where
  /-- Ends the program over a level that is none. -/
  levelMistake : Farewell := fail "--log-level requires one of off, error, warn, info, debug, trace"

/-- Reads the arguments of the program, its own name not among them. -/
def read (args : List Text) : Except Farewell Arguments := readFrom none .info args

end Arguments
end ChatLink
