/-!
# The command line's arguments

The program takes global flags (`-v`, repeatable, for more detail; `-q` for errors only) and
one of three commands, each with an optional input (a file, inline text, or `-` for standard
input, the default):

* `parse [--full] [--pretty] [INPUT]`
* `layout [-c CONFIG] [-o OUTPUT] [--evidence] [--pretty] [INPUT]`
* `detect [--json] [INPUT]`

Long options take `--name value` or `--name=value`; short ones may be clustered (`-vvq`) and
take their value attached (`-cFILE`, `-c=FILE`) or as the next argument. An option waiting for
its value takes the next argument unless that looks like an option: a known option then ends
the reading with a missing value, an unknown one is refused as unknown. After `--` every
argument is an input. A flag or option given twice, a value given to a flag, a second input,
an unknown name or a missing value is a usage error; `-h`/`--help`, `help [COMMAND]` and
`-V`/`--version` print texts instead of running.

The global flags may be given before the command and after it; a `-v` count given after the
command replaces the one before it.

Help lists options in declaration order, the global ones merged in by their own order, and an
unknown option is answered with the most similar known one when one is similar enough (Jaro
similarity above 0.7).
-/

namespace FlowLayout.Cli

/-! ### Commands -/

/-- What to run. -/
inductive Command where
  | parse (input : String) (full pretty : Bool)
  | layout (input : String) (config output : Option String) (evidence pretty : Bool)
  | detect (input : String) (json : Bool)

/-- A command with the global flags. -/
structure Invocation where
  command : Command
  verbose : Nat
  quiet : Bool

/-- What the arguments ask for: a run, a text to show (help or version), or a refusal with
its message. -/
inductive Parsed where
  | run (inv : Invocation)
  | show (text : String)
  | refuse (message : String)

/-! ### Option tables -/

/-- An option or flag of a command, as help lists it. -/
structure OptionDoc where
  short : Option Char
  long : String
  value : Option String := none
  repeatable : Bool := false
  help : String
  /-- Place in help: options sort by this, then by key. -/
  order : Nat

/-- The text of an option in help and messages: `-c, --config <CONFIG>`. -/
def OptionDoc.spec (o : OptionDoc) : String :=
  (match o.short with
    | some c => "-" ++ String.singleton c ++ ", "
    | none => "    ") ++
  "--" ++ o.long ++
  (match o.value with
    | some v => " <" ++ v ++ ">"
    | none => "") ++
  (if o.repeatable then "..." else "")

/-- The name of an option in messages: `--config <CONFIG>`. -/
def OptionDoc.display (o : OptionDoc) : String :=
  "--" ++ o.long ++
  (match o.value with
    | some v => " <" ++ v ++ ">"
    | none => "") ++
  (if o.repeatable then "..." else "")

/-- The sort key of an option in help: its short letter (lower case first), else its long
name. -/
def OptionDoc.key (o : OptionDoc) : String :=
  match o.short with
  | some c => String.singleton c.toLower ++ (if c.isLower then "0" else "1")
  | none => o.long

/-- The global flags. -/
def globalOptions : List OptionDoc :=
  [{ short := some 'v', long := "verbose", repeatable := true, order := 0,
     help := "Enable verbose logging (can be repeated for more detail: -v, -vv, -vvv)" },
   { short := some 'q', long := "quiet", order := 1,
     help := "Suppress all output except errors" }]

/-- The help flag of a command that has a longer help of its own, and of one that has not. -/
def helpOption (longer : Option Bool) : OptionDoc :=
  { short := some 'h', long := "help", order := 999,
    help := match longer with
      | none => "Print help"
      | some false => "Print help (see more with '--help')"
      | some true => "Print help (see a summary with '-h')" }

/-- The version flag. -/
def versionOption : OptionDoc :=
  { short := some 'V', long := "version", order := 999, help := "Print version" }

/-- The commands by name, with their one-line descriptions. -/
def commandNames : List (String × String) :=
  [("parse", "Parse a diagram and output it as JSON"),
   ("layout", "Lay out a diagram and output positions and routed edges as JSON"),
   ("detect", "Detect the diagram kind"),
   ("help", "Print this message or the help of the given subcommand(s)")]

/-- The options of a command, before the global ones. -/
def commandOptions : String → List OptionDoc
  | "parse" =>
    [{ short := none, long := "full", order := 0,
       help := "Output the full diagram (default is summary)" },
     { short := none, long := "pretty", order := 1, help := "Pretty-print JSON output" }]
  | "layout" =>
    [{ short := some 'c', long := "config", value := some "CONFIG", order := 0,
       help := "Layout config file (.toml or .json)" },
     { short := some 'o', long := "output", value := some "OUTPUT", order := 1,
       help := "Output file (default: stdout)" },
     { short := none, long := "evidence", order := 2,
       help := "Output a one-line run summary instead of the full layout" },
     { short := none, long := "pretty", order := 3, help := "Pretty-print JSON output" }]
  | "detect" => [{ short := none, long := "json", order := 0, help := "Output as JSON" }]
  | _ => []

/-- All options of a command (none: the program itself) in the order help lists them. -/
def optionsOf (command : Option String) : List OptionDoc :=
  let own := match command with
    | some name => commandOptions name
    | none => []
  let extra := match command with
    | some _ => [helpOption none]
    | none => [helpOption (some false), versionOption]
  (own ++ globalOptions).mergeSort (fun a b => a.order < b.order ||
    (a.order == b.order && decide (a.key ≤ b.key))) ++ extra

/-! ### Help texts -/

/-- `n` spaces. -/
def spaces (n : Nat) : String := String.ofList (List.replicate n ' ')

/-- Rows of names and descriptions, the descriptions aligned two columns after the longest
name. -/
def table (rows : List (String × String)) : String :=
  let width := rows.foldl (fun w (n, _) => max w n.length) 0
  String.join (rows.map fun (n, d) => "  " ++ n ++ spaces (width - n.length) ++ "  " ++ d ++ "\n")

/-- Rows with each description on the next line, indented, and a blank line between rows. -/
def tallTable (rows : List (String × String)) : String :=
  "\n".intercalate (rows.map fun (n, d) => "  " ++ n ++ "\n" ++ spaces 10 ++ d ++ "\n")

/-- The program's name. -/
def programName : String := "sc-cli"

/-- The usage line of the program or a command. -/
def usage : Option String → String
  | none => programName ++ " [OPTIONS] <COMMAND>"
  | some name => programName ++ " " ++ name ++ " [OPTIONS] [INPUT]"

/-- The help of the program; the longer one has the long description and each option's
description on a line of its own. -/
def programHelp (longer : Bool) : String :=
  let options := (optionsOf none).map fun o =>
    if o.long == "help" then helpOption (some longer) else o
  let rows := options.map fun o => (o.spec, o.help)
  (if longer then
    "Parses diagram DSL text and computes a layered layout.\n\n" ++
    "Output is JSON meant for a renderer: node positions, routed edges\n" ++
    "and canvas size. Non-flowchart diagrams are passed through verbatim.\n"
  else "StreamChart CLI - parse and lay out flowchart diagrams\n") ++
  "\nUsage: " ++ usage none ++ "\n\nCommands:\n" ++ table commandNames ++
  "\nOptions:\n" ++ (if longer then tallTable rows else table rows)

/-- The help of a command. -/
def commandHelp (name : String) : String :=
  let about := ((commandNames.find? (·.1 == name)).map (·.2)).getD ""
  about ++ "\n\nUsage: " ++ usage (some name) ++ "\n\nArguments:\n" ++
  table [("[INPUT]", "Input file path, inline diagram text, or \"-\" for stdin [default: -]")] ++
  "\nOptions:\n" ++ table ((optionsOf (some name)).map fun o => (o.spec, o.help))

/-- The help of the help command. -/
def helpCommandHelp : String :=
  "Print this message or the help of the given subcommand(s)\n\nUsage: " ++ programName ++
  " help [COMMAND]...\n\nArguments:\n" ++ table [("[COMMAND]...", "Print help for the subcommand(s)")]

/-- The version line. -/
def versionText : String := programName ++ " 0.1.0\n"

/-! ### Usage errors -/

/-- The close of every usage error. -/
def tryHelp : String := "For more information, try '--help'.\n"

/-- A usage error with a usage line: the message, tips, usage, and the pointer to help. -/
def usageErrorWith (message : String) (tips : List String) (usageLine : String) : String :=
  "error: " ++ message ++ "\n\n" ++
  String.join (tips.map fun t => "  tip: " ++ t ++ "\n") ++
  (if tips.isEmpty then "" else "\n") ++
  "Usage: " ++ usageLine ++ "\n\n" ++ tryHelp

/-- A usage error with the command's full usage line. -/
def usageError (message : String) (tips : List String) (command : Option String) : String :=
  usageErrorWith message tips (usage command)

/-- The usage line that names what was given: the options used, then the input (as given or
as optional), or the command placeholder at the top level. -/
def usedUsage (command : Option String) (used : List String) (hasInput : Bool) : String :=
  programName ++ (match command with
    | some name => " " ++ name
    | none => "") ++
  String.join (used.map (" " ++ ·)) ++
  (match command with
    | some _ => if hasInput then " <INPUT>" else " [INPUT]"
    | none => " <COMMAND>")

/-- The Jaro similarity of two strings: the share of matching characters (within half the
longer length of each other) and of those in the same order. -/
def jaro (a b : String) : Float :=
  let xs := a.toList.toArray
  let ys := b.toList.toArray
  if xs.size == 0 && ys.size == 0 then 1.0
  else if xs.size == 0 || ys.size == 0 then 0.0
  else
    let window := (max xs.size ys.size) / 2 - 1
    -- match each character of `a` with the first free equal character of `b` in reach
    let (aMatched, bMatched, hits) := (List.range xs.size).foldl
      (fun (acc : List Nat × Array Bool × Nat) i =>
        let (am, bm, m) := acc
        let lo := i - window
        let hi := min (i + window + 1) ys.size
        match (List.range (hi - lo)).find? (fun k =>
            !(bm.getD (lo + k) true) && ys.getD (lo + k) ' ' == xs.getD i ' ') with
        | some k => (am ++ [i], bm.setIfInBounds (lo + k) true, m + 1)
        | none => (am, bm, m))
      ([], Array.replicate ys.size false, 0)
    if hits == 0 then 0.0
    else
      let aChars := aMatched.map fun i => xs.getD i ' '
      let bChars := ((List.range ys.size).filter fun j => bMatched.getD j false).map
        fun j => ys.getD j ' '
      let transpositions := ((aChars.zip bChars).filter fun (p, q) => p != q).length / 2
      let m := hits.toFloat
      (m / xs.size.toFloat + m / ys.size.toFloat + (m - transpositions.toFloat) / m) / 3.0

/-- The most similar of some names, if any is similar enough; of equally similar ones the
last. -/
def similar (word : String) (names : List String) : Option String :=
  names.foldl (fun best n =>
    let score := jaro word n
    if score > 0.7 then
      match best with
      | some (s, _) => if s ≤ score then some (score, n) else best
      | none => some (score, n)
    else best) (none : Option (Float × String)) |>.map (·.2)

/-- The long names a command answers to, in the order they are looked up. -/
def longNames (command : Option String) : List String :=
  match command with
  | some name => (commandOptions name).map (·.long) ++ ["verbose", "quiet", "help"]
  | none => ["verbose", "quiet", "help", "version"]

/-- The refusal of an argument nobody asked for. -/
def unexpected (arg : String) (command : Option String) (tips : List String) : Parsed :=
  .refuse (usageError ("unexpected argument '" ++ arg ++ "' found") tips command)

/-- The commands that have options of their own. -/
def optionCommands : List String := ["parse", "layout", "detect"]

/-- Of the commands named later on the line, the first that has an option similar to `name`,
with that option. -/
def laterCommandOption (name : String) (later : List String) : Option (String × String) :=
  let found := optionCommands.filterMap fun c =>
    match similar name (longNames (some c)), later.idxOf? c with
    | some s, some i => some (i, c, s)
    | _, _ => none
  match found.foldl (fun best x => match best with
      | some b => if x.1 < b.1 then some x else best
      | none => some x) none with
  | some (_, c, s) => some (c, s)
  | none => none

/-- The refusal of an unknown long option: a similar name, or at the top level a similar
option of a command named later, or else (for a command with an input) the way to pass it as
input. The usage line names what was used so far, and the similar option. -/
def unknownLong (name : String) (command : Option String) (used : List String)
    (hasInput : Bool) (later : List String) : Parsed :=
  let message := "unexpected argument '--" ++ name ++ "' found"
  let plainUsage := if used.isEmpty && !hasInput then usage command
    else usedUsage command used hasInput
  match similar name (longNames command) with
  | some s =>
    let shown := match (optionsOf command).find? (·.long == s) with
      | some o => o.display
      | none => "--" ++ s
    .refuse (usageErrorWith message ["a similar argument exists: '--" ++ s ++ "'"]
      (usedUsage command (if used.contains shown then used else used ++ [shown]) hasInput))
  | none =>
    match command, laterCommandOption name later with
    | none, some (c, s) =>
      .refuse (usageErrorWith message ["'" ++ c ++ " --" ++ s ++ "' exists"] plainUsage)
    | _, _ =>
      let tips := if command.isSome then
          ["to pass '--" ++ name ++ "' as a value, use '-- --" ++ name ++ "'"]
        else []
      .refuse (usageErrorWith message tips plainUsage)

/-- The refusal of an unknown short option. -/
def unknownShort (c : Char) (command : Option String) : Parsed :=
  let arg := "-" ++ String.singleton c
  unexpected arg command
    (if command.isSome then ["to pass '" ++ arg ++ "' as a value, use '-- " ++ arg ++ "'"] else [])

/-- The refusal of a flag or option given twice. -/
def givenTwice (o : OptionDoc) (command : Option String) : Parsed :=
  .refuse (usageError ("the argument '" ++ o.display ++ "' cannot be used multiple times") []
    command)

/-- The refusal of an option without its value. -/
def missingValue (o : OptionDoc) : Parsed :=
  .refuse ("error: a value is required for '" ++ o.display ++
    "' but none was supplied\n\n" ++ tryHelp)

/-- The refusal of an unknown command name, with a similar one when there is one. -/
def unknownCommand (name : String) : Parsed :=
  let tips := match similar name (commandNames.map (·.1)) with
    | some s => ["a similar subcommand exists: '" ++ s ++ "'"]
    | none => []
  .refuse (usageError ("unrecognized subcommand '" ++ name ++ "'") tips none)

/-- The refusal of a command name after `--`, where only an input may stand. -/
def commandAfterDashes (name : String) : Parsed :=
  .refuse (usageError ("unexpected argument '" ++ name ++ "' found")
    ["subcommand '" ++ name ++ "' exists; to use it, remove the '--' before it"] none)

/-! ### Reading the arguments -/

/-- What has been read so far. -/
structure Reading where
  /-- The `-v` count and `-q` of the current level: the program's, then the command's. -/
  verbose : Nat := 0
  quiet : Bool := false
  /-- The `-v` count and `-q` given before the command. -/
  outerVerbose : Nat := 0
  outerQuiet : Bool := false
  /-- The command, once named. -/
  command : Option String := none
  flags : List String := []
  values : List (String × String) := []
  input : Option String := none
  /-- Whether `--` has been seen. -/
  literal : Bool := false
  /-- An option read without its value, waiting for the next argument. -/
  pending : Option OptionDoc := none
  /-- The options used at the current level, in the order of first use, as messages name
  them. -/
  used : List String := []

/-- Whether an argument looks like an option. -/
def looksLikeOption (arg : String) : Bool := arg.startsWith "-" && arg != "-"

/-- Records the use of an option. -/
def Reading.note (r : Reading) (o : OptionDoc) : Reading :=
  if r.used.contains o.display then r else { r with used := r.used ++ [o.display] }

/-- Sets a flag of the current command, refusing a second use. -/
def Reading.setFlag (r : Reading) (o : OptionDoc) : Except Parsed Reading :=
  if o.long == "verbose" then pure ({ r with verbose := r.verbose + 1 }.note o)
  else if o.long == "quiet" then
    if r.quiet then throw (givenTwice o r.command) else pure ({ r with quiet := true }.note o)
  else if r.flags.contains o.long then throw (givenTwice o r.command)
  else pure ({ r with flags := r.flags ++ [o.long] }.note o)

/-- Sets the value of an option, refusing a second use. -/
def Reading.setValue (r : Reading) (o : OptionDoc) (v : String) : Except Parsed Reading :=
  if r.values.any (·.1 == o.long) then throw (givenTwice o r.command)
  else pure ({ r with values := r.values ++ [(o.long, v)] }.note o)

/-- The refusal of a value attached to a flag (`--pretty=yes`); the usage line names what was
used, the flag included. -/
def Reading.flagValue (r : Reading) (o : OptionDoc) (v : String) : Parsed :=
  .refuse (usageErrorWith
    ("unexpected value '" ++ v ++ "' for '" ++ o.display ++ "' found; no more were expected") []
    (usedUsage r.command (r.note o).used r.input.isSome))

/-- The action of `-h`/`--help` and `-V`/`--version` where they are read. -/
def Reading.special (r : Reading) (o : OptionDoc) (longForm : Bool) : Option Parsed :=
  if o.long == "help" then
    some (.show (match r.command with
      | some name => commandHelp name
      | none => programHelp longForm))
  else if o.long == "version" then some (.show versionText)
  else none

/-- Takes a known option: an option still waiting for its value is missing it, help and
version show their texts, and an option with a value takes the attached one or waits for the
next argument. -/
def Reading.take (r : Reading) (o : OptionDoc) (longForm : Bool) (attached : Option String) :
    Except Parsed Reading :=
  match r.pending with
  | some p => throw (missingValue p)
  | none =>
    match r.special o longForm with
    | some p => throw p
    | none =>
      if o.value.isSome then
        match attached with
        | some v => r.setValue o v
        | none => pure { r with pending := some o }
      else r.setFlag o

/-- Reads the short options of one cluster (`-vq`, `-cFILE`); an option with a value takes the
rest of the cluster (after an optional `=`), or else waits for the next argument. -/
def Reading.shorts (r : Reading) : List Char → Except Parsed Reading
  | [] => pure r
  | c :: rest =>
    match (optionsOf r.command).find? (·.short == some c) with
    | none => throw (unknownShort c r.command)
    | some o =>
      if o.value.isSome then
        r.take o false (match rest with
          | [] => none
          | '=' :: v => some (String.ofList v)
          | v => some (String.ofList v))
      else do
        let r ← r.take o false none
        r.shorts rest

/-- Reads a long option (`--name` or `--name=value`); `later` are the arguments after it. -/
def Reading.long (r : Reading) (body : String) (later : List String) : Except Parsed Reading :=
  let name := (body.splitOn "=").head?.getD body
  let attached := if body.contains '=' then some (body.drop (name.length + 1)).toString else none
  match (optionsOf r.command).find? (·.long == name) with
  | none => throw (unknownLong name r.command r.used r.input.isSome later)
  | some o =>
    match o.value, attached with
    | none, some v => throw (r.flagValue o v)
    | _, _ => r.take o true attached

/-- The refusal of a name after `help` that is not a command (of the command before it, when
there is one). -/
def unknownHelpTopic (name : String) (within : Option String) : Parsed :=
  let usageLine := match within with
    | some "help" => programName ++ " help [COMMAND]..."
    | other => usage other
  .refuse (usageErrorWith ("unrecognized subcommand '" ++ name ++ "'") [] usageLine)

/-- What `help` with the remaining arguments shows: the help of the named command; commands
have no commands of their own, so a second name is unknown. -/
def helpFor : List String → Parsed
  | [] => .show (programHelp true)
  | name :: more =>
    if name == "help" || (commandNames.map (·.1)).contains name then
      match more with
      | [] => if name == "help" then .show helpCommandHelp else .show (commandHelp name)
      | other :: _ => unknownHelpTopic other (some name)
    else unknownHelpTopic name none

/-- Enters a command: its own level starts with no options used. -/
def Reading.enter (r : Reading) (name : String) : Reading :=
  { r with command := some name, outerVerbose := r.verbose, outerQuiet := r.quiet,
           verbose := 0, quiet := false, used := [] }

/-- Reads the arguments one by one. -/
def Reading.step (r : Reading) : List String → Except Parsed Reading
  | [] =>
    match r.pending with
    | some p => throw (missingValue p)
    | none => pure r
  | arg :: rest =>
    if r.literal || !looksLikeOption arg then
      match r.pending, r.literal with
      | some o, false => do Reading.step (← { r with pending := none }.setValue o arg) rest
      | _, _ =>
        match r.command with
        | none =>
          let known := (commandNames.map (·.1)).contains arg
          if r.literal && known then throw (commandAfterDashes arg)
          else if arg == "help" then throw (helpFor rest)
          else if known then Reading.step (r.enter arg) rest
          else throw (unknownCommand arg)
        | some name =>
          if r.input.isSome then throw (unexpected arg (some name) [])
          else
            match r.pending with
            | some p => throw (missingValue p)
            | none => Reading.step { r with input := some arg } rest
    else if arg == "--" then
      Reading.step { r with literal := true } rest
    else if arg.startsWith "--" then do
      Reading.step (← r.long (arg.drop 2).toString rest) rest
    else do
      Reading.step (← r.shorts (arg.drop 1).toString.toList) rest
termination_by args => args.length

/-- The meaning of a command line (without the program's name). -/
def parseArgs (args : List String) : Parsed :=
  if args.isEmpty then .refuse (programHelp false)
  else
    match Reading.step {} args with
    | .error p => p
    | .ok r =>
      match r.command with
      | none =>
        .refuse ("error: '" ++ programName ++ "' requires a subcommand but one was not provided\n" ++
          "  [subcommands: parse, layout, detect, help]\n\nUsage: " ++ usage none ++ "\n\n" ++ tryHelp)
      | some name =>
        let input := r.input.getD "-"
        let flag := fun f => r.flags.contains f
        let value := fun v => (r.values.find? (·.1 == v)).map (·.2)
        let command := match name with
          | "parse" => Command.parse input (flag "full") (flag "pretty")
          | "layout" => .layout input (value "config") (value "output") (flag "evidence") (flag "pretty")
          | _ => .detect input (flag "json")
        .run { command, verbose := if r.verbose > 0 then r.verbose else r.outerVerbose,
               quiet := r.quiet || r.outerQuiet }

end FlowLayout.Cli
