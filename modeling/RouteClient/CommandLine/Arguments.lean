import RouteClient.Text.Split

namespace RouteClient.CommandLine

open RouteClient.Text

inductive Misuse where
  | unknownOption (name : String)
  | missingValue (name : String)
  | unexpectedValue (name : String)
  | missingOperand (name : String)
  | extraOperand (value : String)
  | missingCommand
  | unknownCommand (name : String)
  | unknownFormat (name : String)
deriving Repr, DecidableEq

structure OptionSpec where
  names : List String
  takesValue : Bool := true
deriving Repr, DecidableEq

structure Arguments where
  values : List (String × String) := []
  operands : List String := []
deriving Repr, DecidableEq

end RouteClient.CommandLine

namespace RouteClient.CommandLine.Misuse

def message : Misuse → String
  | unknownOption name => "No such option: " ++ name
  | missingValue name => "Option '" ++ name ++ "' requires an argument."
  | unexpectedValue name => "Option '" ++ name ++ "' does not take a value."
  | missingOperand name => "Missing argument '" ++ name ++ "'."
  | extraOperand value => "Got unexpected extra argument (" ++ value ++ ")"
  | missingCommand => "Missing command."
  | unknownCommand name => "No such command '" ++ name ++ "'."
  | unknownFormat _ => "format must be one of: table, json"

end RouteClient.CommandLine.Misuse

namespace RouteClient.CommandLine.OptionSpec

def key (spec : OptionSpec) : String := spec.names.headD ""

def find? (specs : List OptionSpec) (name : String) : Option OptionSpec :=
  specs.find? (·.names.contains name)

end RouteClient.CommandLine.OptionSpec

namespace RouteClient.CommandLine.Arguments

open RouteClient.Text

def value? (arguments : Arguments) (key : String) : Option String :=
  arguments.values.reverse.lookup key

def isGiven (arguments : Arguments) (key : String) : Bool := (arguments.value? key).isSome

/-- Options read from one argument. The last of them may still need a value. -/
structure Reading where
  values : List (String × String) := []
  pending : Option String := none

def readLong (spec : OptionSpec) (name : String) (attached : Option String) :
    Except Misuse Reading :=
  match spec.takesValue, attached with
  | true, some value => .ok { values := [(spec.key, value)] }
  | true, none => .ok { pending := some spec.key }
  | false, some _ => .error (.unexpectedValue name)
  | false, none => .ok { values := [(spec.key, "")] }

def readShort (specs : List OptionSpec) : List Char → Except Misuse Reading
  | [] => .ok {}
  | c :: rest =>
    let name := String.ofList ['-', c]
    match OptionSpec.find? specs name with
    | none => .error (.unknownOption name)
    | some spec =>
      if spec.takesValue then
        if rest.isEmpty then .ok { pending := some spec.key }
        else .ok { values := [(spec.key, String.ofList rest)] }
      else do
        let more ← readShort specs rest
        return { more with values := (spec.key, "") :: more.values }

def readOption (specs : List OptionSpec) (argument : String) : Except Misuse Reading :=
  let (name, attached) :=
    match Split.cutFirst '=' argument.toList with
    | some (name, value) => (String.ofList name, some (String.ofList value))
    | none => (argument, none)
  if "--".toList.isPrefixOf argument.toList then
    match OptionSpec.find? specs name with
    | some spec => readLong spec name attached
    | none => .error (.unknownOption name)
  else readShort specs argument.toList.tail

def looksLikeOption (argument : String) : Bool :=
  argument.toList.head? == some '-' && argument.length > 1

/-- Reads on after some arguments. Options may stand after operands only where the two are mixed. -/
def readFrom (specs : List OptionSpec) (mixed : Bool) (done : Arguments) :
    List String → Except Misuse Arguments
  | [] => .ok done
  | argument :: rest =>
    if argument == "--" then .ok { done with operands := done.operands ++ rest }
    else if looksLikeOption argument then
      match readOption specs argument with
      | .error misuse => .error misuse
      | .ok reading =>
        let done := { done with values := done.values ++ reading.values }
        match reading.pending, rest with
        | none, rest => readFrom specs mixed done rest
        | some key, value :: rest =>
          readFrom specs mixed { done with values := done.values ++ [(key, value)] } rest
        | some key, [] => .error (.missingValue key)
    else if mixed then
      readFrom specs mixed { done with operands := done.operands ++ [argument] } rest
    else .ok { done with operands := done.operands ++ argument :: rest }

def read (specs : List OptionSpec) (mixed : Bool) (arguments : List String) :
    Except Misuse Arguments :=
  readFrom specs mixed {} arguments

end RouteClient.CommandLine.Arguments
