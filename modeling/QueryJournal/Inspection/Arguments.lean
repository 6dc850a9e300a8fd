import QueryJournal.Record.Status
import QueryJournal.Search.Page
import QueryJournal.Time.Text

namespace QueryJournal.Inspection

open QueryJournal.Text (strip?)
open QueryJournal.Time (Instant)

/-!
The command line. Options that every command takes may stand before the command and after it, and
the later place counts. A value that stands apart from its option is looked at when the next option
comes or the arguments end.
-/

/-- How found entries are printed. -/
inductive Form where
  | lines
  | text
  deriving DecidableEq, Repr

/-- What to search for and how to print it. -/
structure SearchOptions where
  term : Option String := none
  strict : Bool := false
  status : Option Status := none
  offset : Nat := 0
  limit : Nat := 500
  scanCap : Nat := 50000
  olderThan : Option Instant := none
  timeout : Option Nat := none
  form : Form := .lines
  deriving DecidableEq

/-- What the program is asked to do. -/
inductive Command where
  | search (options : SearchOptions)
  | segments
  | check
  deriving DecidableEq

/-- The arguments of the program. -/
structure Invocation where
  configPath : Option String
  directory : Option String
  level : Option String
  command : Command
  deriving DecidableEq

/-- Why the arguments cannot be followed, or that they ask for help. -/
inductive UsageFault where
  | unknownArgument
  | unknownCommand
  | missingCommand
  | noArguments
  | missingValue
  | rejectedValue
  | surplusValue
  | repeated
  | missingTerm
  | help
  deriving DecidableEq, Repr

/-- The search that options ask for, with a timeout that starts at a given time. -/
def SearchOptions.request (options : SearchOptions) (clock : Nat) : Search.Request :=
  { criteria :=
      (options.term.toList.map fun term => .term term options.strict) ++
        options.status.toList.map .status
    offset := options.offset
    limit := options.limit
    scanCap := options.scanCap
    olderThan := options.olderThan
    deadline := options.timeout.map (clock + ·) }

/-- An option. -/
inductive Flag where
  | config
  | directory
  | level
  | help
  | term
  | strict
  | status
  | offset
  | limit
  | scanCap
  | olderThan
  | timeout
  | form
  deriving DecidableEq, Repr

namespace Flag

def name : Flag → String
  | .config => "config"
  | .directory => "dir"
  | .level => "log-level"
  | .help => "help"
  | .term => "term"
  | .strict => "strict"
  | .status => "status"
  | .offset => "offset"
  | .limit => "limit"
  | .scanCap => "max-scan"
  | .olderThan => "older-than"
  | .timeout => "timeout-ms"
  | .form => "format"

def takesValue : Flag → Bool
  | .help => false
  | .strict => false
  | _ => true

def common : List Flag :=
  [.config, .directory, .level, .help]

def ofSearch : List Flag :=
  common ++ [.term, .strict, .status, .offset, .limit, .scanCap, .olderThan, .timeout, .form]

end Flag

/-- Where an argument stands: before the command, or after the name of one. -/
inductive Scope where
  | program
  | search
  | segments
  | check
  deriving DecidableEq, Repr

namespace Scope

def flags : Scope → List Flag
  | .search => Flag.ofSearch
  | _ => Flag.common

def named? (name : String) : Option Scope :=
  if name = "search" then some .search
  else if name = "segments" then some .segments
  else if name = "check" then some .check
  else none

def isCommand (word : String) : Bool :=
  (named? word).isSome || word = "help"

/-- What is wrong with a word that is no option, no value of one and no command. Two dashes before
a command take away its meaning. -/
def wordFault (scope : Scope) (afterDashes : Bool) (word : String) : UsageFault :=
  match scope with
  | .program => if afterDashes && isCommand word then .unknownArgument else .unknownCommand
  | _ => .unknownArgument

end Scope

/-- What options have been given so far, each at most once. -/
structure Given where
  configPath : Option String := none
  directory : Option String := none
  level : Option String := none
  term : Option String := none
  strict : Bool := false
  status : Option Status := none
  offset : Option Nat := none
  limit : Option Nat := none
  scanCap : Option Nat := none
  olderThan : Option Instant := none
  timeout : Option Nat := none
  form : Option Form := none
  deriving DecidableEq

namespace Given

def once {α : Type} (old : Option α) (value : Except UsageFault α) :
    Except UsageFault (Option α) :=
  match old with
  | some _ => .error .repeated
  | none => value.map some

/-- A path, which has at least one character. -/
def path (text : String) : Except UsageFault String :=
  if text.isEmpty then .error .missingValue else .ok text

def accepted {α : Type} (value : Option α) : Except UsageFault α :=
  match value with
  | some value => .ok value
  | none => .error .rejectedValue

def count (text : String) : Except UsageFault Nat :=
  accepted (Numeral.word? text.toList)

def formNamed (text : String) : Except UsageFault Form :=
  if text = "jsonl" then .ok .lines
  else if text = "text" then .ok .text
  else .error .missingValue

def set (given : Given) (flag : Flag) (text : String) : Except UsageFault Given :=
  match flag with
  | .config => (once given.configPath (path text)).map fun configPath => { given with configPath }
  | .directory => (once given.directory (path text)).map fun directory => { given with directory }
  | .level => (once given.level (.ok text)).map fun level => { given with level }
  | .term => (once given.term (.ok text)).map fun term => { given with term }
  | .status =>
    (once given.status (accepted (Status.named? text))).map fun status => { given with status }
  | .offset => (once given.offset (count text)).map fun offset => { given with offset }
  | .limit => (once given.limit (count text)).map fun limit => { given with limit }
  | .scanCap => (once given.scanCap (count text)).map fun scanCap => { given with scanCap }
  | .olderThan =>
    (once given.olderThan (accepted (Time.parse? text))).map fun olderThan =>
      { given with olderThan }
  | .timeout => (once given.timeout (count text)).map fun timeout => { given with timeout }
  | .form => (once given.form (formNamed text)).map fun form => { given with form }
  | .strict => if given.strict then .error .repeated else .ok { given with strict := true }
  | .help => .error .help

def isEmpty (given : Given) : Bool :=
  given = {}

def searchOptions (given : Given) : SearchOptions :=
  let default : SearchOptions := {}
  { term := given.term
    strict := given.strict
    status := given.status
    offset := given.offset.getD default.offset
    limit := given.limit.getD default.limit
    scanCap := given.scanCap.getD default.scanCap
    olderThan := given.olderThan
    timeout := given.timeout
    form := given.form.getD default.form }

end Given

/-- Arguments that have been read in part: what was given, and an option that is not settled yet
with its value if that has come. -/
structure Reading where
  given : Given := {}
  pending : Option (Flag × Option String) := none

namespace Reading

def awaitsValue (reading : Reading) : Bool :=
  match reading.pending with
  | some (_, none) => true
  | _ => false

def settle (reading : Reading) : Except UsageFault Reading :=
  match reading.pending with
  | none => .ok reading
  | some (_, none) => .error .missingValue
  | some (flag, some text) =>
    (reading.given.set flag text).map fun given => { given, pending := none }

def takeFlag (reading : Reading) (flag : Flag) (attached : Option String) :
    Except UsageFault Reading :=
  match flag.takesValue, attached with
  | false, some _ => .error .surplusValue
  | true, none => reading.settle.map fun settled => { settled with pending := some (flag, none) }
  | _, attached => do
    let settled ← reading.settle
    let given ← settled.given.set flag (attached.getD "")
    pure { settled with given }

/-- Takes in an argument that starts with two dashes, without these. -/
def takeLong (scope : Scope) (reading : Reading) (text : List Char) :
    Except UsageFault Reading :=
  let name := String.ofList (text.takeWhile (· != '='))
  match scope.flags.find? fun flag => flag.name = name with
  | none => .error .unknownArgument
  | some flag =>
    match text.dropWhile (· != '=') with
    | [] => reading.takeFlag flag none
    | _ :: value => reading.takeFlag flag (some (String.ofList value))

/-- Takes in an argument that starts with one dash, without it. -/
def takeShort (reading : Reading) (text : List Char) : Except UsageFault Reading :=
  match text with
  | 'h' :: _ => reading.takeFlag .help none
  | 'c' :: [] => reading.takeFlag .config none
  | 'c' :: '=' :: value => reading.takeFlag .config (some (String.ofList value))
  | 'c' :: value => reading.takeFlag .config (some (String.ofList value))
  | _ => .error .unknownArgument

def takeValue (reading : Reading) (text : String) : Reading :=
  { reading with pending := reading.pending.map fun (flag, _) => (flag, some text) }

end Reading

/-- What follows the command that asks for help: at most the name of one command. -/
def helpFault : List String → UsageFault
  | [] => .help
  | [word] => if Scope.isCommand word then .help else .unknownCommand
  | _ :: _ :: _ => .unknownCommand

/-- Reads arguments up to the name of a command, which only counts before the command. -/
def readArguments (scope : Scope) (reading : Reading) :
    List String → Except UsageFault (Reading × Option (Scope × List String))
  | [] => .ok (reading, none)
  | word :: rest =>
    if scope = .program ∧ !reading.awaitsValue ∧ word = "help" then .error (helpFault rest)
    else
      match if scope = .program ∧ !reading.awaitsValue then Scope.named? word else none with
      | some command => .ok (reading, some (command, rest))
      | none =>
        match strip? ['-', '-'] word.toList with
        | some [] =>
          match rest with
          | [] => .ok (reading, none)
          | next :: _ => .error (scope.wordFault true next)
        | some text => do readArguments scope (← reading.takeLong scope text) rest
        | none =>
          match word.toList with
          | '-' :: c :: text => do readArguments scope (← reading.takeShort (c :: text)) rest
          | _ =>
            if reading.awaitsValue then readArguments scope (reading.takeValue word) rest
            else .error (scope.wordFault false word)

def commandOf (scope : Scope) (given : Given) : Except UsageFault Command :=
  match scope with
  | .program => .error .missingCommand
  | .segments => .ok .segments
  | .check => .ok .check
  | .search =>
    if given.strict ∧ given.term.isNone then .error .missingTerm
    else .ok (.search given.searchOptions)

/-- Reads the arguments of the program. The arguments after the command are settled before those in
front of it. -/
def Invocation.parse (arguments : List String) : Except UsageFault Invocation := do
  let (front, found) ← readArguments .program {} arguments
  match found with
  | none =>
    let front ← front.settle
    .error (if front.given.isEmpty then .noArguments else .missingCommand)
  | some (scope, rest) =>
    let (back, _) ← readArguments scope {} rest
    let back ← back.settle
    let command ← commandOf scope back.given
    let front ← front.settle
    pure
      { configPath := back.given.configPath <|> front.given.configPath
        directory := back.given.directory <|> front.given.directory
        level := back.given.level <|> front.given.level
        command }

end QueryJournal.Inspection
