import CallScope.CommandLine

/-!
# Explaining the command line

The pages that `-h` and `--help` print: one for the program and one for each
command. Items stand in a table; where there is more to say of one than fits
beside it, a page in full gives each item lines of its own.
-/

namespace CallScope.CommandLine

/-- The name of the program. -/
def programName : String := "llmspan"

/-- What `--version` prints. -/
def versionText : String := "llmspan-bin 0.1.0"

/-- What the command that explains does. -/
def helpPurpose : String := "Print this message or the help of the given subcommand(s)"

namespace Verb

/-- What a command does. -/
def purpose : Verb → String
  | .detect => "Print the provider an endpoint URL belongs to"
  | .usage => "Normalize the usage block of a provider response (file or `-` for stdin)"
  | .convertTools =>
    "Convert compact `\x7bname, parameters\x7d` tool calls to the OpenAI shape"
  | .replay => "Replay recorded exchanges through the instrumentation, concurrently"

/-- How the operand of a command is shown. -/
def operandText : Verb → String
  | .detect => "<URL>"
  | _ => operandName

end Verb

/-- **An item that is explained**: how it is written, what it means, what
holds without it, and the values it may take where a page goes into them. -/
structure Entry where
  item : String
  meaning : String := ""
  standard : String := ""
  values : List (String × String) := []

/-- A text filled up with blanks to a width. -/
def padded (width : Nat) (s : String) : String :=
  s ++ String.ofList (List.replicate (width - s.length) ' ')

/-- The longest of some texts. -/
def widest (texts : List String) : Nat := (texts.map String.length).foldl max 0

/-- The items of a page and the meanings beside them, in one column. -/
def table (entries : List Entry) : List String :=
  let width := widest (entries.map Entry.item)
  entries.map fun e => "  " ++ padded width e.item ++ "  " ++ e.meaning ++ e.standard
    ++ (if e.values.isEmpty then ""
      else " [possible values: " ++ String.intercalate ", " (e.values.map Prod.fst) ++ "]")

/-- One value an item may take, and what it means if that is said. -/
def valueLine (width : Nat) (value : String × String) : String :=
  if value.2.isEmpty then "- " ++ value.1
  else "- " ++ padded width (value.1 ++ ":") ++ " " ++ value.2

/-- The values an item may take, one a line. -/
def Entry.valueLines (e : Entry) : List String :=
  if e.values.isEmpty then []
  else "Possible values:" :: e.values.map (valueLine (widest (e.values.map Prod.fst) + 1))

/-- What there is to say of an item: what it means, the values it may take
and what holds without it, with a blank line between them. -/
def Entry.explanation (e : Entry) : List String :=
  let said := [[e.meaning], e.valueLines, [e.standard]].filter (·.any (!·.isEmpty))
  if said.isEmpty then [""] else List.intercalate [""] said

/-- An item with everything about it on lines of its own. -/
def Entry.paragraph (e : Entry) : List String :=
  ("  " ++ e.item) :: e.explanation.map ("          " ++ ·)

/-- Items with everything about them, one below the other. -/
def paragraphs (entries : List Entry) : List String :=
  List.intercalate [""] (entries.map Entry.paragraph)

/-- The option that both levels have. -/
def configEntry : Entry where
  item := "    --config <CONFIG>"
  meaning := "Config file (JSON or TOML)"

/-- The option that only a replay has. -/
def metricsEntry : Entry where
  item := "    --metrics <METRICS>"
  standard := "[default: log]"
  values := [
    ("log", "Log every sample as a tracing event"),
    ("facade", "Forward to the installed `metrics` recorder"),
    ("none", "")]

/-- The option that asks for help; `hint` says what other help there is. -/
def helpEntry (hint : String) : Entry := { item := "-h, --help", meaning := "Print help" ++ hint }

/-- The page of the program. -/
def programPage : List String :=
  ["LLM call instrumentation tool", "", "Usage: " ++ programName ++ " [OPTIONS] <COMMAND>", "",
    "Commands:"]
  ++ table (Verb.all.map (fun verb => { item := verb.name, meaning := verb.purpose })
      ++ [{ item := "help", meaning := helpPurpose }])
  ++ ["", "Options:"]
  ++ table [configEntry, helpEntry "", { item := "-V, --version", meaning := "Print version" }]

/-- What the page of a command begins with. -/
def commandHeading (verb : Verb) : List String :=
  [verb.purpose, "",
    "Usage: " ++ programName ++ " " ++ verb.name ++ " [OPTIONS] " ++ verb.operandText, ""]

/-- The page of a command, in the layout of its items. -/
def commandPage (verb : Verb) (layout : List Entry → List String) (options : List Entry) :
    List String :=
  commandHeading verb
  ++ ("Arguments:" :: layout [{ item := verb.operandText }])
  ++ ["", "Options:"]
  ++ layout options

/-- The page of the command that explains. -/
def helpPage : List String :=
  [helpPurpose, "", "Usage: " ++ programName ++ " help [COMMAND]...", "", "Arguments:"]
  ++ table [{ item := "[COMMAND]...", meaning := "Print help for the subcommand(s)" }]

/-- **The lines of a page.** A replay alone has more to say in full than in
short. -/
def page : Topic → List String
  | .program => programPage
  | .help => helpPage
  | .command .replay true =>
    commandPage .replay paragraphs
      [configEntry, metricsEntry, helpEntry " (see a summary with '-h')"]
  | .command .replay false =>
    commandPage .replay table
      [configEntry, metricsEntry, helpEntry " (see more with '--help')"]
  | .command verb _ => commandPage verb table [configEntry, helpEntry ""]

end CallScope.CommandLine
