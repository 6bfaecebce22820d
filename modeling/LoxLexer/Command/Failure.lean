/-!
# Failures of the command

What keeps the command from scanning: a script that cannot be read, or a prompt that cannot be read
from. Each failure has a display and an error beneath it.
-/
namespace LoxLexer

/-- Why the contents of a file are not there. -/
inductive ReadFault where
  | notFound
  | isDirectory
  | notADirectory
  | nameTooLong
  | invalidText
  | other (message : String)
  deriving DecidableEq, Repr

def ReadFault.message : ReadFault → String
  | notFound => "No such file or directory (os error 2)"
  | isDirectory => "Is a directory (os error 21)"
  | notADirectory => "Not a directory (os error 20)"
  | nameTooLong => "File name too long (os error 36)"
  | invalidText => "stream did not contain valid UTF-8"
  | other message => message

/-- Why no line came from the prompt. -/
inductive PromptFault where
  | endOfInput
  | interrupted
  | windowResized
  | device (message : String)
  deriving DecidableEq, Repr

def PromptFault.message : PromptFault → String
  | endOfInput => "EOF"
  | interrupted => "Interrupted"
  | windowResized => "WindowResized"
  | device message => message

/-- A failure of a device is an error of its own beneath the fault. -/
def PromptFault.beneath : PromptFault → List String
  | device message => [message]
  | _ => []

inductive Failure where
  | script (path message : String)
  | prompt (fault : PromptFault)
  deriving DecidableEq, Repr

namespace Failure

def display : Failure → String
  | script path message => "could not read script " ++ path ++ ": " ++ message
  | prompt fault => "prompt failed: " ++ fault.message

def source : Failure → String
  | script _ message => message
  | prompt fault => fault.message

/-- The failure and all errors beneath it, from the top down. -/
def trail : Failure → List String
  | script path message => [(script path message).display, message]
  | prompt fault => (prompt fault).display :: fault.message :: fault.beneath

end Failure
end LoxLexer
