import TickMachine.Decimal.Reader
import TickMachine.Text.Quoted

namespace TickMachine

inductive OptionName where
  | verbose
  | rate
  | timeout
  | help
deriving DecidableEq, Repr

namespace OptionName

def long : OptionName → String
  | verbose => "--verbose"
  | rate => "--rate"
  | timeout => "--timeout"
  | help => "--help"

def short? : OptionName → Option Char
  | verbose => some 'v'
  | rate => some 'r'
  | timeout => some 't'
  | help => none

def takesValue : OptionName → Bool
  | rate | timeout => true
  | verbose | help => false

def all : List OptionName := [verbose, rate, timeout, help]

def ofLong? (name : String) : Option OptionName := all.find? (·.long = name)

def ofShort? (letter : Char) : Option OptionName := all.find? (·.short? = some letter)

end OptionName

inductive UsageError where
  | unknownOption (name : String)
  | missingValue (name : String)
  /-- A value for an option that takes none. -/
  | unexpectedValue (name : String)
  | badRate (value : String)
  | badTimeout (value : String)
  | missingArgument
  | surplusArguments (arguments : List String)
deriving DecidableEq, Repr

def UsageError.message : UsageError → String
  | unknownOption name => "No such option " ++ Text.quoted name ++ "."
  | missingValue name => "Option " ++ Text.quoted name ++ " requires an argument."
  | unexpectedValue name => "Option " ++ Text.quoted name ++ " does not take a value."
  | badRate value =>
    "Invalid value for '-r' / '--rate': " ++ Text.quoted value ++ " is not a valid float range."
  | badTimeout value =>
    "Invalid value for '-t' / '--timeout': " ++ Text.quoted value ++ " is not a valid float."
  | missingArgument => "Missing argument 'SOURCE_FILENAME'."
  | surplusArguments arguments =>
    "Got unexpected extra argument" ++ (if arguments.length = 1 then "" else "s") ++ " (" ++
      " ".intercalate arguments ++ ")"

/-- An option as it was given; a flag has the empty value. -/
structure GivenOption where
  name : OptionName
  value : String
deriving DecidableEq, Repr

/-- The options that one argument gives, and the last one if its value is still to come, with the
spelling it was given under. -/
structure Cluster where
  given : List GivenOption
  wanting : Option (OptionName × String)
deriving DecidableEq, Repr

namespace Cluster

def ofLong (arg : List Char) : Except UsageError Cluster :=
  let spelling := String.ofList (arg.takeWhile (· ≠ '='))
  let value? := (arg.dropWhile (· ≠ '=')).tail?.map String.ofList
  match OptionName.ofLong? spelling with
  | none => .error (.unknownOption spelling)
  | some name =>
    match name.takesValue, value? with
    | true, some value => .ok ⟨[⟨name, value⟩], none⟩
    | true, none => .ok ⟨[], some (name, spelling)⟩
    | false, some _ => .error (.unexpectedValue spelling)
    | false, none => .ok ⟨[⟨name, ""⟩], none⟩

/-- Short options in a row; the rest after an option that takes a value is its value. -/
def ofShort : List Char → Except UsageError Cluster
  | [] => .ok ⟨[], none⟩
  | letter :: rest =>
    let spelling := String.ofList ['-', letter]
    match OptionName.ofShort? letter with
    | none => .error (.unknownOption spelling)
    | some name =>
      if name.takesValue then
        if rest.isEmpty then .ok ⟨[], some (name, spelling)⟩
        else .ok ⟨[⟨name, String.ofList rest⟩], none⟩
      else (ofShort rest).map fun c => { c with given := ⟨name, ""⟩ :: c.given }

def ofArg (arg : String) : Except UsageError Cluster :=
  match arg.toList with
  | '-' :: '-' :: _ => ofLong arg.toList
  | cs => ofShort (cs.drop 1)

end Cluster

/-- The arguments sorted into options and others, both in order. -/
structure GivenArgs where
  options : List GivenOption
  others : List String
deriving DecidableEq, Repr

namespace GivenArgs

def isOption (arg : String) : Bool := arg.toList.head? = some '-' ∧ 1 < arg.length

/-- Two dashes end the options. An option that takes a value takes the next argument, whatever it
looks like. -/
def sort (g : GivenArgs) : List String → Except UsageError GivenArgs
  | [] => .ok g
  | arg :: rest =>
    if arg = "--" then .ok { g with others := g.others ++ rest }
    else if isOption arg then
      match Cluster.ofArg arg with
      | .error e => .error e
      | .ok ⟨given, none⟩ => sort { g with options := g.options ++ given } rest
      | .ok ⟨given, some (name, spelling)⟩ =>
        match rest with
        | [] => .error (.missingValue spelling)
        | value :: rest => sort { g with options := g.options ++ given ++ [⟨name, value⟩] } rest
    else sort { g with others := g.others ++ [arg] } rest

def value? (g : GivenArgs) (name : OptionName) : Option String :=
  (g.options.reverse.find? (·.name = name)).map (·.value)

def checkValue (name : OptionName) (value : String) : Except UsageError Unit :=
  match name, Decimal.read? value with
  | .rate, none => .error (.badRate value)
  | .timeout, none => .error (.badTimeout value)
  | _, _ => .ok ()

/-- The last value of each option has to be a number where one is due; the option that was given
first is checked first. -/
def checkValues (g : GivenArgs) : Except UsageError Unit :=
  (g.options.map (·.name)).eraseDups.forM fun name =>
    checkValue name ((g.value? name).getD "")

def number? (g : GivenArgs) (name : OptionName) : Option Float := do
  Decimal.read? (← g.value? name)

end GivenArgs

structure Options where
  verbose : Bool
  rate : Option Float
  timeout : Option Float
  filename : String

inductive Request where
  | help
  | run (options : Options)

/-- Faults of spelling go first, then the wish for help, then values, then missing and surplus
arguments. -/
def Request.ofArgs (args : List String) : Except UsageError Request := do
  let given ← GivenArgs.sort ⟨[], []⟩ args
  if (given.value? .help).isSome then return .help
  given.checkValues
  match given.others with
  | [] => throw .missingArgument
  | [filename] =>
    return .run
      { verbose := (given.value? .verbose).isSome
        rate := given.number? .rate
        timeout := given.number? .timeout
        filename }
  | _ :: surplus => throw (.surplusArguments surplus)

def Request.helpText : String :=
  "\n".intercalate
    ["Usage: run [OPTIONS] SOURCE_FILENAME",
     "",
     "Options:",
     "  -v, --verbose           Sets logging level to debug",
     "  -r, --rate FLOAT RANGE  Instructions per second  [default: 1; 1<=x<=2000]",
     "  -t, --timeout FLOAT     Stop after this many seconds",
     "  --help                  Show this message and exit.",
     ""]

end TickMachine
