import ListInvocation.Wire.Stream

/-!
Contract: commands and the arguments that ask for them.

A command is named by one or two words. Its options take a value, in the next argument or
behind an equals sign, and are given at most once. What starts with a hyphen is an option,
except for a lone hyphen and for whatever follows two hyphens.

Owns: commands, the reading of arguments, and the misuses that it finds.

Does not own: what a command does.
-/

namespace ListInvocation.CommandLine

/-- An argument as text. Bytes that are no text are shown by replacements in it, and
`faithful` tells whether there are none. -/
structure Argument where
  text : String
  faithful : Bool
deriving Repr, DecidableEq

inductive Command where
  /-- Serve sessions, on a given address instead of the configured transport. -/
  | serve (config? bind? : Option String)
  /-- Check the configuration. -/
  | validate (config? : Option String)
  /-- Report which names the configuration excludes. -/
  | checkExclusions (config? : Option String) (names : List String)
deriving Repr, DecidableEq

inductive Misuse where
  | commandMissing
  | commandUnknown (text : String)
  | argumentUnexpected (text : String)
  | optionUnknown (text : String)
  | optionRepeated (name : String)
  | valueMissing (name : String)
  | valueNotText (name : String)
  | namesMissing
deriving Repr, DecidableEq

def Misuse.message : Misuse → String
  | commandMissing => "a command is required"
  | commandUnknown text => "unrecognized command: " ++ text
  | argumentUnexpected text => "unexpected argument: " ++ text
  | optionUnknown text => "unexpected option: " ++ text
  | optionRepeated name => "option cannot be used multiple times: --" ++ name
  | valueMissing name => "a value is required for --" ++ name
  | valueNotText name => "invalid text in the value of " ++ name
  | namesMissing => "at least one name is required"

inductive Detour where
  | version
  | help
  | misuse (misuse : Misuse)
deriving Repr, DecidableEq

structure Given where
  config? : Option String
  bind? : Option String
  names : List String
deriving Repr, DecidableEq

structure Form where
  takesBind : Bool
  takesNames : Bool
deriving Repr, DecidableEq

namespace Given

def nothing : Given := ⟨none, none, []⟩

/-- Takes a path to a configuration, which may hold any bytes but must hold some. -/
def takeConfig (given : Given) (value : Argument) : Except Detour Given :=
  if given.config?.isSome then .error (.misuse (.optionRepeated "config"))
  else if value.text.isEmpty then .error (.misuse (.valueMissing "config"))
  else .ok { given with config? := some value.text }

def takeBind (given : Given) (value : Argument) : Except Detour Given :=
  if given.bind?.isSome then .error (.misuse (.optionRepeated "bind"))
  else if !value.faithful then .error (.misuse (.valueNotText "bind"))
  else .ok { given with bind? := some value.text }

def takeOption (given : Given) (form : Form) (name : String) (value : Argument) :
    Except Detour Given :=
  if name = "config" then given.takeConfig value
  else if name = "bind" ∧ form.takesBind then given.takeBind value
  else .error (.misuse (.optionUnknown ("--" ++ name)))

def takeName (given : Given) (form : Form) (value : Argument) : Except Detour Given :=
  if !form.takesNames then .error (.misuse (.argumentUnexpected value.text))
  else if !value.faithful then .error (.misuse (.valueNotText "NAME"))
  else .ok { given with names := given.names ++ [value.text] }

end Given

def Form.hasOption (form : Form) (name : String) : Bool :=
  name == "config" || (name == "bind" && form.takesBind)

inductive ArgumentShape where
  /-- Two hyphens alone. -/
  | separator
  /-- A long option, with what follows its equals sign. -/
  | long (name : String) (value? : Option Argument)
  /-- Short options, without their hyphen. -/
  | short (letters : List Char)
  | plain
deriving Repr, DecidableEq

namespace Argument

/-- An argument of some bytes. Where they are no text, each byte beyond ASCII is replaced. -/
def ofBytes (bytes : List UInt8) : Argument :=
  match Wire.textOf? bytes with
  | some text => ⟨text, true⟩
  | none =>
      ⟨String.ofList (bytes.map fun byte =>
        if byte < 0x80 then Char.ofNat byte.toNat else Char.ofNat 0xFFFD), false⟩

def shape (argument : Argument) : ArgumentShape :=
  match argument.text.toList with
  | ['-', '-'] => .separator
  | '-' :: '-' :: rest =>
      match rest.dropWhile (· != '=') with
      | [] => .long (String.ofList rest) none
      | _ :: value =>
          .long (String.ofList (rest.takeWhile (· != '=')))
            (some { argument with text := String.ofList value })
  | '-' :: letter :: letters => .short (letter :: letters)
  | _ => .plain

end Argument

def readNames (form : Form) (given : Given) : List Argument → Except Detour Given
  | [] => .ok given
  | argument :: rest => do
      let given ← given.takeName form argument
      readNames form given rest

def shortDetour (letters : List Char) : Detour :=
  if letters.head? = some 'h' then .help
  else .misuse (.optionUnknown (String.ofList ('-' :: letters)))

def readGiven (form : Form) (given : Given) : List Argument → Except Detour Given
  | [] => .ok given
  | argument :: rest =>
      match argument.shape with
      | .separator => readNames form given rest
      | .short letters => .error (shortDetour letters)
      | .plain => do
          let given ← given.takeName form argument
          readGiven form given rest
      | .long name (some value) => do
          let given ← given.takeOption form name value
          readGiven form given rest
      | .long name none =>
          if name = "help" then .error .help
          else if !form.hasOption name then .error (.misuse (.optionUnknown argument.text))
          else
            match rest with
            | [] => .error (.misuse (.valueMissing name))
            | value :: rest =>
                if value.shape = .plain then do
                  let given ← given.takeOption form name value
                  readGiven form given rest
                else .error (.misuse (.valueMissing name))

/-- The detour that an argument in the place of a command makes. Only the outermost
place knows the version. -/
def detourOf (outermost : Bool) (argument : Argument) : Detour :=
  match argument.shape with
  | .long "help" none => .help
  | .long "version" none =>
      if outermost then .version else .misuse (.optionUnknown argument.text)
  | .short letters =>
      if outermost ∧ letters.head? = some 'V' then .version else shortDetour letters
  | .plain => .misuse (.commandUnknown argument.text)
  | .long _ _ | .separator => .misuse (.optionUnknown argument.text)

def readServe (arguments : List Argument) : Except Detour Command := do
  let given ← readGiven ⟨true, false⟩ .nothing arguments
  return .serve given.config? given.bind?

def readValidate (arguments : List Argument) : Except Detour Command := do
  let given ← readGiven ⟨false, false⟩ .nothing arguments
  return .validate given.config?

def readCheckExclusions (arguments : List Argument) : Except Detour Command := do
  let given ← readGiven ⟨false, true⟩ .nothing arguments
  if given.names.isEmpty then throw (.misuse .namesMissing)
  else return .checkExclusions given.config? given.names

def readSecondWord (word : String) (read : List Argument → Except Detour Command) :
    List Argument → Except Detour Command
  | [] => .error (.misuse .commandMissing)
  | argument :: rest =>
      if argument.text = word then read rest else .error (detourOf false argument)

def readCommand : List Argument → Except Detour Command
  | [] => .error (.misuse .commandMissing)
  | argument :: rest =>
      match argument.text with
      | "serve" => readServe rest
      | "config" => readSecondWord "validate" readValidate rest
      | "exclusions" => readSecondWord "check" readCheckExclusions rest
      | _ => .error (detourOf true argument)

end ListInvocation.CommandLine
