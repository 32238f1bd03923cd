import CallScope.CommandLine.Help
import CallScope.Config.Load
import CallScope.LogFilter
import CallScope.Replay
import CallScope.Session

/-!
# The program

`Program.run` does what a command line asks for, given the files, the standard
input and the log filter of the environment that it may read. It ends with a
code: 0, 1 for whatever fails while running, 2 for a mistake in the command
line, 101 for a log filter that cannot be taken apart. What it prints is a list
of lines, of which only a replay prints some that depend on time.

The configuration is loaded, and its log filter read, before anything else is.
Nothing is printed before everything that can fail has succeeded.
-/

namespace CallScope

open Json Decode CommandLine

namespace Program

/-- **What surrounds a run.** -/
structure Surroundings where
  /-- The bytes of the file at a path, if there is one. -/
  file : String → Option (List UInt8)
  /-- The bytes of standard input. -/
  input : List UInt8
  /-- The log filter that the environment asks for, if it asks for one. -/
  logFilter : Option String := none
  now : Moment

/-- **A line that is printed.** -/
inductive Line where
  | text (s : String)
  /-- A summary; it is due when its call has come back. -/
  | summary (summary : CallSummary)

/-- The text of a line. -/
def Line.written : Line → String
  | .text s => s
  | .summary c => c.toValue.compact

/-- **How a run ends.** -/
structure Outcome where
  code : UInt8
  lines : List Line := []
  /-- What is said of a failure. -/
  complaint : Option String := none
  /-- What the backends of a replay report. -/
  reports : List Report := []

/-- A run that prints lines of text. -/
def prints (lines : List String) : Outcome := { code := 0, lines := lines.map .text }

/-- A run that fails. -/
def fails (complaint : String) : Outcome := { code := 1, complaint := some complaint }

/-! ## Input -/

/-- Whether a path means standard input: a single dash, and nothing behind
it that matters in a path. -/
def meansInput (path : String) : Bool :=
  match path.toList.splitOn '/' with
  | first :: rest => first == ['-'] && rest.all fun part => part.isEmpty || part == ['.']
  | [] => false

/-- The path that a command reads, standard input being none. -/
def inputPath : Command → Option String
  | .detect _ => none
  | .usage path => path
  | .convertTools path => path
  | .replay path _ => path

/-- Whether a command reads standard input. -/
def readsInput : Command → Bool
  | .detect _ => false
  | command => (inputPath command).all meansInput

/-- The bytes at a path, or of standard input. -/
def bytesAt (s : Surroundings) : Option String → Option (List UInt8)
  | none => some s.input
  | some path => if meansInput path then some s.input else s.file path

/-- **The text at a path**, or of standard input. -/
def textAt (s : Surroundings) (path : Option String) : Except String String :=
  match bytesAt s path with
  | none => .error ("reading " ++ path.getD "-")
  | some bytes =>
    match Text.Utf8.decode bytes with
    | .ok text => .ok text
    | .error fault => .error fault.message

/-- Decode the text at a path and go on with what it holds. -/
def withInput {α : Type} (s : Surroundings) (path : Option String) (decode : Decoder α)
    (go : α → Outcome) : Outcome :=
  match textAt s path with
  | .error complaint => fails complaint
  | .ok text =>
    match decode.ofText text with
    | .error fault => fails fault.message
    | .ok a => go a

/-! ## Commands -/

/-- The usage of a response, on one line. -/
def printUsage (response : Value) : Outcome :=
  prints [(Value.ofOption Usage.toValue (Usage.ofResponse? response)).compact]

/-- The lines of a text. -/
def linesOf (text : String) : List String := (text.toList.splitOn '\n').map String.ofList

/-- Compact calls in the OpenAI shape, one item a line. -/
def printCalls (calls : Value) : Outcome :=
  prints (linesOf
    (Value.array ((CompactCall.convert calls).map OpenAiCall.toValue)).indented)

/-- **Replay exchanges** and print a summary of each. -/
def replay (s : Surroundings) (config : Config) (filter : LogFilter) (metrics : MetricsBackend)
    (exchanges : List Exchange) : Outcome :=
  let handle := SpanHandle.ofBackend .tracer filter.letsSpansThrough
  let inst := Instrumentor.ofConfig config
  let (done, signals) := (Replay.ofExchanges inst (handle.isRecording true) exchanges).run
    (Replay.timetable s.now exchanges)
  let backends : Backends := ⟨.tracer, metrics⟩
  { code := 0
    lines := done.summaries.map .summary
    reports := backends.reports handle 0 inst.setupSignals
      ++ signals.flatMap fun sent => backends.report handle sent.1 sent.2 }

/-- A command under a configuration and its log filter. -/
def runCommand (s : Surroundings) (config : Config) (filter : LogFilter) : Command → Outcome
  | .detect url => prints [(Provider.ofUrl url).name]
  | .usage path => withInput s path any printUsage
  | .convertTools path => withInput s path any printCalls
  | .replay path metrics =>
    withInput s path (list Exchange.decode) (replay s config filter metrics)

/-- The configuration at a path, or the one that holds without any. -/
def configAt (s : Surroundings) : Option String → Except Error Config
  | none => .ok {}
  | some path => Config.load path (s.file path)

/-- **The log filter under a configuration**: the environment's, or else the
configured one. -/
def filterUnder (s : Surroundings) (config : Config) : Option LogFilter :=
  LogFilter.effective? s.logFilter config.logging.filter

/-- The paths of the files that a request may read. -/
def paths : Request → List String
  | .run config command => config.toList ++ (inputPath command).toList
  | _ => []

/-- **Run a command line.** -/
def run (s : Surroundings) (args : List String) : Outcome :=
  match CommandLine.read args with
  | .error mistake => { code := 2, complaint := some mistake.message }
  | .ok (.help topic) => prints (page topic)
  | .ok .version => prints [versionText]
  | .ok (.run path command) =>
    match configAt s path with
    | .error error => fails error.message
    | .ok config =>
      match filterUnder s config with
      | none => { code := 101, complaint := some "the log filter cannot be taken apart" }
      | some filter => runCommand s config filter command

end Program
end CallScope
