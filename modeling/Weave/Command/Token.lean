import Weave.Command.Switch
import Weave.Text.Digit

namespace Weave.Command

/-- What an argument is taken for, before any option acts. -/
inductive Token
  | plain (argument : Text)
  | separator
  | switch (switch : Switch) (value : Option Text)
  | shortHelp (tail : Text)
  | unknown (argument : Text)
  deriving DecidableEq, Repr

namespace Token

def separatorText : Text := ['-', '-']

/-- The text before the first `=`, and the text after it if there is one. -/
def splitValue (argument : Text) : Text × Option Text :=
  match argument.dropWhile (· ≠ '=') with
  | [] => (argument, none)
  | _ :: value => (argument.takeWhile (· ≠ '='), some value)

/-- A minus sign and a decimal number, perhaps with a newline after it. -/
def isNegativeNumber : Text → Bool
  | '-' :: rest =>
      let body := if rest.getLast? = some '\n' then rest.dropLast else rest
      match body.dropWhile Text.isDigit with
      | [] => body ≠ []
      | '.' :: fraction => fraction ≠ [] && fraction.all Text.isDigit
      | _ => false
  | _ => false

/-- An argument that names no option is still plain if it is a negative number
or has a space. -/
def unnamed (argument : Text) : Token :=
  if isNegativeNumber argument || argument.contains ' ' then .plain argument
  else .unknown argument

def long (argument : Text) : Except Complaint Token :=
  let (name, value) := splitValue argument
  match Switch.named name with
  | [] => .ok (unnamed argument)
  | [meant] => .ok (.switch meant value)
  | candidates => .error (.ambiguous argument candidates)

def ofArgument (argument : Text) : Except Complaint Token :=
  match argument with
  | '-' :: '-' :: _ => long argument
  | ['-', 'h'] => .ok (.switch .help none)
  | '-' :: 'h' :: '=' :: tail => .ok (.shortHelp tail)
  | '-' :: 'h' :: tail => .ok (.shortHelp tail)
  | '-' :: _ :: _ => .ok (unnamed argument)
  | _ => .ok (.plain argument)

/-- After a separator every argument is plain. -/
def ofArguments : List Text → Except Complaint (List Token)
  | [] => .ok []
  | argument :: rest =>
      if argument = separatorText then .ok (.separator :: rest.map .plain)
      else
        match ofArgument argument with
        | .error complaint => .error complaint
        | .ok token =>
            match ofArguments rest with
            | .error complaint => .error complaint
            | .ok tokens => .ok (token :: tokens)

end Token

end Weave.Command
