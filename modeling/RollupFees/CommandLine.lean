import RollupFees.Settings.File

/-!
# The command line

## Main definitions

* `CommandLine` : what the operator asks for
* `CommandLine.parse?` : the reading of arguments
-/

namespace RollupFees

/-- What the operator asks for: which settings to use, and whether to stop after one tick. -/
structure CommandLine where
  settingsPath : String := Settings.defaultPath
  once : Bool := false
deriving DecidableEq, Repr

namespace CommandLine

/-- How the program is called. -/
def usage : String := "usage: rollup-fees [--config PATH] [--once]"

/-- The path after an equals sign, if an argument names one that way. -/
def pathOf? (argument : String) : Option String :=
  match argument.splitOn "=" with
  | "--config" :: first :: rest => some ("=".intercalate (first :: rest))
  | _ => none

/-- Reads arguments over what has been read so far. -/
def parseFrom (line : CommandLine) : List String → Option CommandLine
  | [] => some line
  | "--once" :: rest => parseFrom { line with once := true } rest
  | "--config" :: path :: rest => parseFrom { line with settingsPath := path } rest
  | argument :: rest =>
    match pathOf? argument with
    | some path => parseFrom { line with settingsPath := path } rest
    | none => none

/-- Reads arguments. -/
def parse? (arguments : List String) : Option CommandLine := parseFrom {} arguments

end CommandLine
end RollupFees
