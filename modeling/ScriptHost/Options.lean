import ScriptHost.Value

/-!
# Command line options

A token of two dashes and a name is a flag and takes no value; every other
token, a bare `--` included, is positional.  Flags form a set, positionals a
list, so an option value does not tell where its flags stood.
-/

namespace ScriptHost

/-- The flags and positionals of an argument vector. -/
structure Options where
  /-- The names of the flags, in order and without repetition. -/
  flags : List String
  /-- The positional tokens, in order; the first is the program's name. -/
  positionals : List String
deriving DecidableEq, Repr, Inhabited

namespace Options

/-- The name of a flag token. -/
def flagName? (token : String) : Option String :=
  match token.toList with
  | '-' :: '-' :: c :: rest => some (String.ofList (c :: rest))
  | _ => none

/-- Put a name at its place in an ordered list without repetition. -/
def insertName (name : String) : List String → List String
  | [] => [name]
  | other :: rest =>
      if name < other then name :: other :: rest
      else if name = other then other :: rest
      else other :: insertName name rest

/-- Add one token of the argument vector. -/
def add (options : Options) (token : String) : Options :=
  match flagName? token with
  | some name => { options with flags := insertName name options.flags }
  | none => { options with positionals := options.positionals ++ [token] }

/-- The options of an argument vector. -/
def parse (argv : List String) : Options :=
  argv.foldl add ⟨[], []⟩

/-- Whether a flag was given. -/
def flag (options : Options) (name : String) : Bool :=
  options.flags.contains name

/-- The positional at an index. -/
def positional? (options : Options) (index : Nat) : Option String :=
  options.positionals[index]?

/-- The options as a script sees them: each flag is true, and `args` holds the
positionals whatever flags were given. -/
def toValue (options : Options) : Value :=
  .object (Value.setMember "args" (.array (options.positionals.map Value.string))
    (options.flags.map fun name => (name, .bool true)))

end Options

end ScriptHost
