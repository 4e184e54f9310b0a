import MeterSight.Decimal.Whole

/-!
# Arguments

The options of the command line, in a long and a short form. The first argument that is wrong, or
asks for help, decides.
-/
namespace MeterSight.CommandLine
open Decimal

/-- An option. -/
inductive Switch where
  | config
  | maxReads
  | json
  | verbose
  | help
  deriving DecidableEq, Repr

namespace Switch

def all : List Switch := [config, maxReads, json, verbose, help]

/-- The name after two dashes. -/
def long : Switch → String
  | config => "config"
  | maxReads => "max-reads"
  | json => "json"
  | verbose => "verbose"
  | help => "help"

/-- The letter after one dash. -/
def short? : Switch → Option Char
  | config => some 'c'
  | maxReads => some 'm'
  | json => none
  | verbose => some 'v'
  | help => some 'h'

def takesValue : Switch → Bool
  | config | maxReads => true
  | _ => false

end Switch

/-- The options given so far. -/
structure Arguments where
  config : Option String
  maxReads : Option Nat
  json : Bool
  verbose : Bool
  deriving DecidableEq, Repr

/-- No option is given. -/
def Arguments.none : Arguments := ⟨Option.none, Option.none, false, false⟩

/-- How many readings are printed at most where that is not told. -/
def defaultMaxReads : Nat := 16

/-- Why the program stops before it begins. -/
inductive Stop where
  | help
  | wrongUsage
  deriving DecidableEq, Repr

namespace Arguments

/-- Takes an option without a value. None may be given twice. -/
def raise (given : Arguments) : Switch → Except Stop Arguments
  | .json => if given.json then .error .wrongUsage else .ok { given with json := true }
  | .verbose => if given.verbose then .error .wrongUsage else .ok { given with verbose := true }
  | .help => .error .help
  | .config | .maxReads => .error .wrongUsage

/-- Takes an option with its value. None may be given twice. -/
def assign (given : Arguments) (switch : Switch) (value : List Char) : Except Stop Arguments :=
  match switch with
  | .config =>
    if given.config.isSome ∨ value = [] then .error .wrongUsage
    else .ok { given with config := some (String.ofList value) }
  | .maxReads =>
    match given.maxReads, natural? maxUInt64 value with
    | Option.none, some n => .ok { given with maxReads := some n }
    | _, _ => .error .wrongUsage
  | .json | .verbose | .help => .error .wrongUsage

/-- Takes short options in one argument. One that takes a value takes what is left of the argument,
behind an equals sign or not; if nothing is left, it is still owed. -/
def cluster (given : Arguments) : List Char → Except Stop (Arguments × Option Switch)
  | [] => .ok (given, Option.none)
  | c :: rest =>
    match Switch.all.find? fun s => s.short? = some c with
    | Option.none => .error .wrongUsage
    | some switch =>
      if switch.takesValue then
        match rest with
        | [] => .ok (given, some switch)
        | '=' :: value => (given.assign switch value).map (·, Option.none)
        | value => (given.assign switch value).map (·, Option.none)
      else
        match given.raise switch with
        | .ok given => cluster given rest
        | .error stop => .error stop

/-- Takes a long option, with a value behind an equals sign or not. -/
def long (given : Arguments) (text : List Char) : Except Stop (Arguments × Option Switch) :=
  let name := text.takeWhile (· ≠ '=')
  match Switch.all.find? (fun s => s.long.toList = name), text.dropWhile (· ≠ '=') with
  | Option.none, _ => .error .wrongUsage
  | some switch, [] =>
    if switch.takesValue then .ok (given, some switch)
    else (given.raise switch).map (·, Option.none)
  | some switch, _ :: value => (given.assign switch value).map (·, Option.none)

/-- May stand for the value that an option is owed: it is no option itself. A single dash is
none. -/
def isValue : List Char → Bool
  | ['-'] => true
  | '-' :: _ => false
  | _ => true

/-- Takes arguments to the end; `owed` is an option that waits for its value. There is nothing to
name without an option. -/
def takeAll (given : Arguments) (owed : Option Switch) : List (List Char) → Except Stop Arguments
  | [] => if owed.isSome then .error .wrongUsage else .ok given
  | text :: rest =>
    match owed with
    | some switch =>
      if isValue text then
        match given.assign switch text with
        | .ok given => takeAll given Option.none rest
        | .error stop => .error stop
      else .error .wrongUsage
    | Option.none =>
      match text with
      | ['-', '-'] => if rest = [] then .ok given else .error .wrongUsage
      | '-' :: '-' :: body =>
        match given.long body with
        | .ok (given, owed) => takeAll given owed rest
        | .error stop => .error stop
      | '-' :: c :: body =>
        match given.cluster (c :: body) with
        | .ok (given, owed) => takeAll given owed rest
        | .error stop => .error stop
      | _ => .error .wrongUsage

/-- Reads the arguments of a command line. -/
def parse (arguments : List String) : Except Stop Arguments :=
  takeAll .none Option.none (arguments.map String.toList)

end Arguments
end MeterSight.CommandLine
