import FlowLayout.Cli.Args
import FlowLayout.Cli.Host
import FlowLayout.Cli.Log
import FlowLayout.Report.Drawing
import FlowLayout.Layout.Config.Text
import FlowLayout.Text.Blank
/-!
# Running the command line

`run` turns arguments into an outcome: an exit status, the text for standard output, and the
text for the error stream. Usage errors end with status 2, help and version with 0 before
anything runs. A command that fails ends with status 1 and a report: what was being done, then
the causes beneath it, one indented under `Caused by:`, or several numbered from 0.

* `parse` prints the parse summary (or the full parse with `--full`), then warns of each parse
  warning;
* `layout` reads the settings (a `.toml` or `.json` file, then the `SC_CROSSING_PASSES`
  variable, then the range checks), then the input; it draws the diagram, says when a text is
  passed through, warns of each parse warning and of routes that stay blocked, and writes the
  drawing or its summary to standard output or a file;
* `detect` names the kind of diagram, the layout it would get, and its first line that is not
  blank or a comment.

Records go to the error stream when their level is within the threshold: errors only with
`-q`, warnings by default, and information, debugging and tracing with one, two and three
`-v`.
-/

namespace FlowLayout.Cli

open Json

/-- A failure of a command: what was being done and the causes beneath it, outermost first. -/
structure Failure where
  context : String
  causes : List String := []

/-- Text with every line after the first indented. -/
def indentLines (pad : String) (s : String) : String :=
  String.intercalate ("\n" ++ pad) (s.splitOn "\n")

/-- The report of a failure. -/
def Failure.report (f : Failure) : String :=
  "Error: " ++ f.context ++
  (match f.causes with
    | [] => ""
    | [c] => "\n\nCaused by:\n    " ++ indentLines "    " c
    | cs => "\n\nCaused by:" ++ String.join (cs.zipIdx.map fun (c, n) =>
        let number := toString n
        "\n" ++ spaces (5 - number.length) ++ number ++ ": " ++ indentLines (spaces 7) c)) ++
  "\n"

/-- What a command has produced so far. -/
structure Transcript where
  records : List Record := []
  stdout : String := ""

/-- A command in progress over a monad `m`. -/
abbrev Session (m : Type → Type) := ExceptT Failure (StateT Transcript m)

variable {m : Type → Type} [Monad m] [Host m]

/-- Adds records. -/
def note (rs : List Record) : Session m Unit :=
  modify fun t => { t with records := t.records ++ rs }

/-- Adds a record of the command line itself. -/
def say (level : Level) (message : String) (fields : List (String × Field) := []) :
    Session m Unit :=
  note [{ level, speaker := "sc_cli", message, fields }]

/-- Prints a line on standard output. -/
def printLine (s : String) : Session m Unit :=
  modify fun t => { t with stdout := t.stdout ++ s ++ "\n" }

/-- Lifts a request to the surroundings. -/
def ask {α : Type} (x : m α) : Session m α := liftM (m := StateT Transcript m) (liftM x)

/-- The text an input names: standard input for `-`, an existing file, or the text itself. -/
def loadInput (input : String) : Session m String := do
  if input == "-" then ask Host.readInput
  else if ← ask (Host.exists? input) then
    match ← ask (Host.readFile input) with
    | .ok s => pure s
    | .error e => throw { context := "Failed to read file: " ++ input, causes := [e.message] }
  else pure input

/-- The extension of a path's last part, in lower case: what follows its last dot, unless the
dot begins the name. -/
def extension (path : String) : Option String :=
  let name := ((path.splitOn "/").filter (· != "")).getLast?.getD ""
  if name == ".." || name == "." then none
  else match name.splitOn "." with
    | [] | [_] => none
    | parts =>
      if name.startsWith "." && parts.length == 2 then none
      else parts.getLast?.map String.toLower

/-- Why an unsigned decimal did not read. -/
inductive NumberError where
  | empty
  | invalidDigit
  | tooLarge

/-- The wording of a number error. -/
def NumberError.message : NumberError → String
  | .empty => "cannot parse integer from empty string"
  | .invalidDigit => "invalid digit found in string"
  | .tooLarge => "number too large to fit in target type"

/-- An unsigned 64-bit decimal, perhaps with `+`, read digit by digit: the first digit that is
not one, or the first that overflows, is the error. -/
def readUnsigned (s : String) : Except NumberError Nat :=
  let digits := match s.toList with
    | '+' :: rest => rest
    | cs => cs
  if s.isEmpty then .error .empty
  else if digits.isEmpty then .error .invalidDigit
  else digits.foldlM (fun n c =>
    if !c.isDigit then .error .invalidDigit
    else
      let n' := n * 10 + (c.toNat - '0'.toNat)
      if n' ≥ Nat.pow 2 64 then .error .tooLarge else .ok n') 0

/-- The name of the variable that overrides the number of crossing passes. -/
def passesVariable : String := "SC_CROSSING_PASSES"

/-- The causes beneath a settings error. -/
def configCauses (e : ConfigError) : List String :=
  match e with
  | .json err => [e.message, err.message]
  | .toml report => [e.message, report]
  | .outOfRange _ => [e.message]

/-- Settings from a file, if one is named, then the override of the crossing passes, then the
range checks. -/
def loadConfig (path : Option String) : Session m (LayoutConfig Float32) := do
  let base ← match path with
    | none => pure LayoutConfig.default
    | some p => do
      let text ← match ← ask (Host.readFile p) with
        | .ok t => pure t
        | .error e => throw { context := "Failed to read config: " ++ p, causes := [e.message] }
      let read : Except ConfigError (LayoutConfig Float32) ← match extension p with
        | some "toml" => pure (match LayoutConfig.readTomlText text with
          | .ok c => c.validate
          | .error report => .error (.toml report))
        | some "json" => pure (match LayoutConfig.readJsonText text with
          | .ok c => c.validate
          | .error e => .error (.json e))
        | _ =>
          let context := "Unsupported config format (expected .toml or .json): " ++ p
          throw { context }
      match read with
      | .ok c => pure c
      | .error e => throw { context := "Invalid config: " ++ p, causes := configCauses e }
  let config ← match ← ask (Host.setting? passesVariable) with
    | none => pure base
    | some value =>
      match readUnsigned (Text.trim value) with
      | .error e =>
        let context := passesVariable ++ " must be a positive integer, got " ++ Text.debugQuote value
        throw { context, causes := [e.message] }
      | .ok passes => do
        note [{ level := .debug, speaker := "sc_cli",
                message := "crossing pass cap from environment",
                fields := [("passes", .count passes)] }]
        pure { base with crossingPasses := passes }
  match config.validate with
  | .ok c => pure c
  | .error e =>
    let context := "Invalid " ++ passesVariable ++ " value"
    throw { context, causes := configCauses e }

/-- JSON text, indented or on one line. -/
def jsonText (v : Value) (pretty : Bool) : String := if pretty then v.pretty else v.compact

/-- The text of a summary. A summary exists as one line of text; indented, it is that line
read back and written out again, so its fractional numbers pass through the reader's
rounding. -/
def summaryText (v : Value) (pretty : Bool) : String :=
  if pretty then
    match Value.parse v.compact with
    | .ok w => w.pretty
    | .error _ => v.pretty
  else v.compact

/-- The `parse` command. -/
def parseCommand (input : String) (full pretty : Bool) : Session m Unit := do
  let source ← loadInput input
  let parsed := parseDiagram source
  note (parseRecords parsed)
  printLine (if full then jsonText parsed.toJson pretty else summaryText parsed.summary pretty)
  for w in parsed.warnings do say .warn ("Parse warning: " ++ w)

/-- The `layout` command. -/
def layoutCommand (input : String) (config output : Option String) (evidence pretty : Bool) :
    Session m Unit := do
  let settings ← loadConfig config
  let source ← loadInput input
  let parsed := parseDiagram source
  let drawing : Drawing Float32 := Drawing.ofParse parsed settings
  note (drawingRecords parsed drawing)
  if drawing.isUnsupported then
    say .info (drawing.detectedKind.name ++ " diagrams are passed through without layout")
  for w in drawing.warnings do say .warn ("Parse warning: " ++ w)
  if let some stats := drawing.stats then
    if stats.unresolvedEdges > 0 then
      say .warn (toString stats.unresolvedEdges ++
        " edge(s) could not be routed clear of other nodes")
  let content := if evidence then summaryText drawing.summary pretty else jsonText drawing.toJson pretty
  match output with
  | none => printLine content
  | some path =>
    match ← ask (Host.writeFile path content) with
    | .ok () => say .info ("Wrote output to: " ++ path)
    | .error e => throw { context := "Failed to write to: " ++ path, causes := [e.message] }

/-- The first line of a text that is not blank or a comment, trimmed. -/
def firstLine (source : String) : String :=
  (((Text.lines source).map Text.trim).find? fun l => !l.isEmpty && !l.startsWith "%%").getD ""

/-- The `detect` command. -/
def detectCommand (input : String) (json : Bool) : Session m Unit := do
  let source ← loadInput input
  let kind := DiagramKind.detect source
  let line := firstLine source
  let supported := kind == .flowchart
  if json then
    printLine (Value.pretty (.obj [("diagram_kind", .str kind.name),
      ("supported", .bool supported), ("first_line", .str (String.ofList (line.toList.take 100)))]))
  else
    printLine ("Diagram kind: " ++ kind.name)
    printLine ("Layout:       " ++ if supported then "layered" else "passthrough")
    if !line.isEmpty then printLine ("First line:   " ++ String.ofList (line.toList.take 60))

/-- Runs a command. -/
def execute : Command → Session m Unit
  | .parse input full pretty => parseCommand input full pretty
  | .layout input config output evidence pretty =>
    layoutCommand input config output evidence pretty
  | .detect input json => detectCommand input json

/-- How a run ends: its status and the texts of its two streams. -/
structure Outcome where
  status : Nat
  stdout : String
  stderr : String

/-- The level threshold of the global flags. -/
def threshold (inv : Invocation) : Nat :=
  if inv.quiet then Level.error.rank else min (Level.warn.rank + inv.verbose) Level.trace.rank

/-- Runs the command line on its arguments (without the program's name). -/
def run (args : List String) : m Outcome :=
  match parseArgs args with
  | .show text => pure ⟨0, text, ""⟩
  | .refuse message => pure ⟨2, "", message⟩
  | .run inv => do
    let (result, t) ← ((execute inv.command : Session m Unit).run).run {}
    let shown := t.records.filter (·.level.rank ≤ threshold inv)
    let log := String.join (shown.map (·.line ++ "\n"))
    pure <| match result with
      | .ok () => ⟨0, t.stdout, log⟩
      | .error f => ⟨1, t.stdout, log ++ f.report⟩

end FlowLayout.Cli
