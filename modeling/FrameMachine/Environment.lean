/-! Environment variables: names with values, in the order in which they were set. -/

namespace FrameMachine

abbrev Environment := List (String × String)

namespace Environment

/-- Sets a variable unless it is set already. -/
def define (environment : Environment) (name value : String) : Environment :=
  match environment.lookup name with
  | some _ => environment
  | none => environment ++ [(name, value)]

/-- The text behind a name and an equals sign in a variable, which is written as its own name, an
equals sign and its value. A name that goes on into the value, up to an equals sign there, has the
rest of the value behind it. -/
def behind? (name : String) (entry : String × String) : Option String :=
  let line := entry.1.toList ++ '=' :: entry.2.toList
  let front := name.toList ++ ['=']
  if front.isPrefixOf line then some (String.ofList (line.drop front.length)) else none

/-- The text that a name stands for when it is put in place of the name. -/
def expand? (environment : Environment) (name : String) : Option String :=
  environment.findSome? (behind? name)

end Environment

end FrameMachine
