import CallScope.Telemetry.MetricsBackend

/-!
# The command line

A command line names a command, with options before and after its name and
operands behind it. `--config` may be given before the command's name, after
it, or in both places, the later one counting; within one place no option may
be given twice. Behind `--` everything is an operand.

Arguments are taken from left to right, and the first thing that settles the
matter does so: a request for help, or a mistake. A value is only looked at
when the next option or operand comes, or the end (`Level.settle`), so that a
command's help can still be had behind a bad value given before its name.
-/

namespace CallScope.CommandLine

/-! ## What a command line says -/

/-- **The commands** by name. -/
inductive Verb where
  | detect
  | usage
  | convertTools
  | replay
deriving DecidableEq

namespace Verb

/-- The name of a command. -/
def name : Verb → String
  | .detect => "detect"
  | .usage => "usage"
  | .convertTools => "convert-tools"
  | .replay => "replay"

/-- All commands in the order they are listed. -/
def all : List Verb := [.detect, .usage, .convertTools, .replay]

/-- The command with a name. -/
def ofName? (name : String) : Option Verb := all.find? fun v => v.name == name

/-- Whether the operand of a command is a path; it may then be left out. -/
def takesPath : Verb → Bool
  | .detect => false
  | _ => true

end Verb

/-- **A command with what it works on.** Without a path, it is standard
input. -/
inductive Command where
  | detect (url : String)
  | usage (path : Option String)
  | convertTools (path : Option String)
  | replay (path : Option String) (metrics : MetricsBackend)
deriving DecidableEq

/-- **What may be explained.** -/
inductive Topic where
  | program
  /-- A command; `inFull` asks for all there is to say. -/
  | command (verb : Verb) (inFull : Bool)
  /-- How to have something explained. -/
  | help
deriving DecidableEq

/-- **What a command line asks for.** -/
inductive Request where
  /-- Run a command under the configuration at a path. -/
  | run (config : Option String) (command : Command)
  | help (topic : Topic)
  | version
deriving DecidableEq

/-- **Mistakes in a command line.** -/
inductive Mistake where
  | noCommand
  | unknownCommand (name : String)
  | unexpected (argument : String)
  | noValue (option : String)
  | badValue (option value : String)
  | repeated (option : String)
  | noOperand (verb : Verb)
deriving DecidableEq

/-- The wording of a mistake. -/
def Mistake.message : Mistake → String
  | .noCommand => "a command is required"
  | .unknownCommand name => "unrecognized command: " ++ name
  | .unexpected argument => "unexpected argument: " ++ argument
  | .noValue option => "a value is required for " ++ option
  | .badValue option value => "invalid value for " ++ option ++ ": " ++ value
  | .repeated option => option ++ " cannot be used multiple times"
  | .noOperand verb => verb.name ++ " requires an operand"

/-! ## One level -/

/-- The options that take a value. -/
inductive Valued where
  | config
  | metrics
deriving DecidableEq

/-- How an option is written. -/
def Valued.flag : Valued → String
  | .config => "--config"
  | .metrics => "--metrics"

/-- How messages call the operand. -/
def operandName : String := "[INPUT]"

/-- A value that has been given and not been looked at. -/
inductive Given where
  | option (option : Valued) (value : String)
  | operand (value : String)
deriving DecidableEq

/-- **What has been given on one level** of a command line, that before a
command's name or that behind it. -/
structure Level where
  /-- The command, behind its name. -/
  verb : Option Verb
  config : Option String := none
  metrics : Option MetricsBackend := none
  operand : Option String := none
  /-- The value given last. -/
  pending : Option Given := none

/-- What a request for help on a level is about. -/
def Level.topic (level : Level) (inFull : Bool) : Topic :=
  match level.verb with
  | none => .program
  | some verb => .command verb inFull

/-- Where samples go, by name. -/
def metricsModes : List (String × MetricsBackend) := [
  ("log", .log), ("facade", .facade), ("none", .discard)]

namespace Level

/-- Accept the value of an option. Paths are not empty. -/
def accept (level : Level) (option : Valued) (value : String) : Except Mistake Level :=
  match option with
  | .config =>
    if level.config.isSome then .error (.repeated option.flag)
    else if value.isEmpty then .error (.badValue option.flag value)
    else .ok { level with config := some value }
  | .metrics =>
    if level.metrics.isSome then .error (.repeated option.flag)
    else match metricsModes.lookup value with
      | some mode => .ok { level with metrics := some mode }
      | none => .error (.badValue option.flag value)

/-- **Look at the value given last.** -/
def settle (level : Level) : Except Mistake Level :=
  let settled := { level with pending := none }
  match level.pending with
  | none => .ok settled
  | some (.option option value) => settled.accept option value
  | some (.operand value) =>
    if value.isEmpty && level.verb.any Verb.takesPath then .error (.badValue operandName value)
    else .ok { settled with operand := some value }

/-- Whether an operand has been given. -/
def hasOperand (level : Level) : Bool :=
  level.operand.isSome || match level.pending with
    | some (.operand _) => true
    | _ => false

/-- Give an operand; a command takes one. -/
def giveOperand (level : Level) (value : String) : Except Mistake Level :=
  if level.verb.isNone || level.hasOperand then .error (.unexpected value)
  else match level.settle with
    | .error mistake => .error mistake
    | .ok level => .ok { level with pending := some (.operand value) }

/-- Give operands, one after another. -/
def giveOperands (level : Level) (values : List String) : Except Mistake Level :=
  values.foldlM giveOperand level

/-- The option of a name that takes a value on this level. -/
def valued? (level : Level) (name : List Char) : Option Valued :=
  if name = "config".toList then some .config
  else if name = "metrics".toList ∧ level.verb = some .replay then some .metrics
  else none

end Level

/-! ## Arguments -/

/-- Whether an argument is one or several options. A single dash is a
value. -/
def isOption (arg : String) : Bool :=
  match arg.toList with
  | '-' :: _ :: _ => true
  | _ => false

/-- What an option leads to that is followed by `rest`. -/
inductive Taken (rest : List String) where
  /-- The level with the option, and the arguments that are left. -/
  | more (level : Level) (left : List String) (shorter : left.length ≤ rest.length)
  | stop (request : Request)

/-- Stop with a request once what was given has been looked at. -/
def stopWith {rest : List String} (level : Level) (request : Request) :
    Except Mistake (Taken rest) :=
  level.settle.map fun _ => .stop request

/-- Take a long option: its name, and the value behind an equals sign. -/
def takeLong (level : Level) (arg : String) (name : List Char) (value : Option String)
    (rest : List String) : Except Mistake (Taken rest) :=
  match level.valued? name with
  | some option =>
    match level.settle with
    | .error mistake => .error mistake
    | .ok level =>
      match value with
      | some value =>
        (level.accept option value).map fun level => .more level rest (Nat.le_refl _)
      | none =>
        match rest with
        | [] => .error (.noValue option.flag)
        | value :: rest =>
          if isOption value then .error (.noValue option.flag)
          else
            let level := { level with pending := some (.option option value) }
            .ok (.more level rest (Nat.le_succ _))
  | none =>
    if value.isSome then .error (.unexpected arg)
    else if name = "help".toList then stopWith level (.help (level.topic true))
    else if name = "version".toList ∧ level.verb.isNone then stopWith level .version
    else .error (.unexpected arg)

/-- **Take an option** and the value that belongs to it. -/
def takeOption (level : Level) (arg : String) (rest : List String) :
    Except Mistake (Taken rest) :=
  match arg.toList with
  | '-' :: '-' :: long =>
    let name := long.takeWhile (· != '=')
    let value := match long.drop name.length with
      | _ :: value => some (String.ofList value)
      | [] => none
    takeLong level arg name value rest
  | _ :: 'h' :: _ => stopWith level (.help (level.topic false))
  | _ :: 'V' :: _ =>
    if level.verb.isNone then stopWith level .version else .error (.unexpected arg)
  | _ => .error (.unexpected arg)

/-! ## Behind the name of a command -/

/-- What a level behind a command's name asks for, apart from the
configuration. -/
def command (verb : Verb) (level : Level) : Except Mistake Command :=
  match verb, level.operand with
  | .detect, some url => .ok (.detect url)
  | .detect, none => .error (.noOperand verb)
  | .usage, path => .ok (.usage path)
  | .convertTools, path => .ok (.convertTools path)
  | .replay, path => .ok (.replay path (level.metrics.getD .log))

/-- The end of a command line. -/
def finish (verb : Verb) (level : Level) : Except Mistake Request :=
  match level.settle with
  | .error mistake => .error mistake
  | .ok level => (command verb level).map (.run level.config)

/-- The arguments behind the name of a command. -/
def behind (verb : Verb) (level : Level) (args : List String) : Except Mistake Request :=
  match args with
  | [] => finish verb level
  | arg :: rest =>
    if arg = "--" then
      match level.giveOperands rest with
      | .error mistake => .error mistake
      | .ok level => finish verb level
    else if isOption arg then
      match takeOption level arg rest with
      | .error mistake => .error mistake
      | .ok (.stop request) => .ok request
      | .ok (.more level left _) => behind verb level left
    else
      match level.giveOperand arg with
      | .error mistake => .error mistake
      | .ok level => behind verb level rest
termination_by args.length
decreasing_by
  all_goals simp only [List.length_cons]; omega

/-! ## Before the name of a command -/

/-- What `help` explains: nothing but commands, and itself. -/
def helpFor : List String → Except Mistake Request
  | [] => .ok (.help .program)
  | [name] =>
    match Verb.ofName? name with
    | some verb => .ok (.help (.command verb true))
    | none => if name = "help" then .ok (.help .help) else .error (.unknownCommand name)
  | name :: other :: _ =>
    if (Verb.ofName? name).isSome ∨ name = "help" then .error (.unknownCommand other)
    else .error (.unknownCommand name)

/-- The request of a command, under a configuration that was given before
its name unless one was given behind it. -/
def under (level : Level) : Request → Except Mistake Request
  | .run config command => level.settle.map fun level => .run (config.or level.config) command
  | request => .ok request

/-- The arguments before the name of a command, and all behind. -/
def before (level : Level) (args : List String) : Except Mistake Request :=
  match args with
  | [] => .error .noCommand
  | arg :: rest =>
    if arg = "help" then helpFor rest
    else match Verb.ofName? arg with
      | some verb =>
        match behind verb { verb := some verb } rest with
        | .error mistake => .error mistake
        | .ok request => under level request
      | none =>
        if arg = "--" then
          match rest with
          | [] => .error .noCommand
          | arg :: _ => .error (.unexpected arg)
        else if isOption arg then
          match takeOption level arg rest with
          | .error mistake => .error mistake
          | .ok (.stop request) => .ok request
          | .ok (.more level left _) => before level left
        else .error (.unknownCommand arg)
termination_by args.length
decreasing_by
  simp only [List.length_cons]; omega

/-- **Read a command line.** -/
def read (args : List String) : Except Mistake Request := before { verb := none } args

end CallScope.CommandLine
