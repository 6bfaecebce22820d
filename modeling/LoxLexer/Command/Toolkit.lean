import LoxLexer.Command.Options
import LoxLexer.Command.Lines
import LoxLexer.Log.Filter

/-!
# Toolkits

Some things the command leaves to others: to read its arguments, to cut its input into lines and to
say which log records a filter selects. They always come back with an answer. `Toolkit.standard` has
them as they are defined here.
-/
namespace LoxLexer

structure Toolkit where
  request : List String → Except UsageError Request
  /-- The lines of an input, with `none` for those whose bytes are no text. -/
  lines : ByteArray → List (Option String)
  filter? : String → Option Selection
  /-- The filter that selects the records up to a level. -/
  upTo : Level → Selection

/-- The level that so many requests for more log output lead to. -/
def Level.ofVerbosity : Nat → Level
  | 0 => .warn
  | 1 => .debug
  | _ => .trace

namespace Toolkit

def standard : Toolkit where
  request := Options.read
  lines := sessionLines
  filter? text := (Filter.ofText? text).map Filter.selection
  upTo level := (Filter.upTo level).selection

/-- A filter text that can be read takes the place of the verbosity. -/
def selection (tools : Toolkit) (filter : Option String) (verbosity : Nat) : Selection :=
  (filter.bind tools.filter?).getD (tools.upTo (.ofVerbosity verbosity))

end Toolkit
end LoxLexer
