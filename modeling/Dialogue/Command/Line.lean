import Dialogue.Files.Path
import Dialogue.Script.Starter

/-!
# The command line

What the words of a command line ask for. A line is the name of a command among options and
operands. An option is a word that starts with two hyphens; its value is what follows an equals sign
in the same word, or the next word, unless that starts with a hyphen as well. A single hyphen is an
operand, and so is every word after `--`.

Every option belongs to a command. `--config` belongs to all of them: it may stand before the name
of the command as well as after it, and then the one after it counts.

A line that names an option twice, gives an empty path, or names what its command does not take asks
for nothing at all.
-/

namespace Dialogue

/-- What an import is asked for. -/
structure ImportRequest where
  /-- The files and directories to import; when there are none, those of the settings. -/
  paths : List Path
  /-- The file of the database, before the one of the settings. -/
  database : Option Path
  /-- The extension of script files, before the one of the settings. -/
  extension : Option String
  /-- Whether the database is left as it was. -/
  dryRun : Bool
  /-- Whether an error that is reported fails the run. -/
  strict : Bool
  deriving DecidableEq

/-- What can be asked for. -/
inductive Command
  /-- Imports scripts into a database. -/
  | importScripts (request : ImportRequest)
  /-- Writes a new script. -/
  | newScript (path : Path) (title conversant : String)
  /-- Looks for problems in a database. -/
  | check (database : Option Path)
  deriving DecidableEq

/-- What a command line asks for. -/
structure Invocation where
  /-- The settings file, if the standard one is not meant. -/
  settingsFile : Option Path
  command : Command
  deriving DecidableEq

namespace Command

/-! ## The words of a line -/

/-- The options that have a value. -/
def valuedOptions : List String := ["config", "db", "ext", "title", "npc"]

/-- The options whose value is a path. -/
def pathOptions : List String := ["config", "db"]

/-- The options that have none. -/
def flags : List String := ["dry-run", "strict"]

/-- A piece of a command line. -/
inductive Item
  | operand (word : String)
  | option (name value : String)
  | flag (name : String)
  /-- The word after which there are only operands. -/
  | separator
  deriving DecidableEq

/-- Whether a word stands for itself, wherever it stands. -/
def isOperand (word : String) : Bool :=
  match word.toList with
  | '-' :: _ :: _ => false
  | _ => true

/-- The name of an option that a word starts with, and the value in the same word if it has one. -/
def splitOption? (word : String) : Option (String × Option String) :=
  match word.toList with
  | '-' :: '-' :: body =>
    let name := String.ofList (body.takeWhile (· ≠ '='))
    some (name, (body.dropWhile (· ≠ '=')).tail?.map String.ofList)
  | _ => none

/-- The items of a command line. -/
def items? : List String → Option (List Item)
  | [] => some []
  | word :: words =>
    if isOperand word then (items? words).map (.operand word :: ·)
    else if word = "--" then some (.separator :: words.map .operand)
    else
      match splitOption? word with
      | none => none
      | some (name, some value) =>
        if valuedOptions.contains name then (items? words).map (.option name value :: ·) else none
      | some (name, none) =>
        if flags.contains name then (items? words).map (.flag name :: ·)
        else if valuedOptions.contains name then
          match words with
          | value :: words =>
            if isOperand value then (items? words).map (.option name value :: ·) else none
          | [] => none
        else none

/-- What a part of a command line gives. -/
structure Given where
  options : List (String × String)
  flags : List String
  operands : List String

namespace Given

/-- What these items give. -/
def ofItems (items : List Item) : Given where
  options := items.filterMap fun
    | .option name value => some (name, value)
    | _ => none
  flags := items.filterMap fun
    | .flag name => some name
    | _ => none
  operands := items.filterMap fun
    | .operand word => some word
    | _ => none

/-- Whether nothing is given twice and no path is empty. -/
def isProper (g : Given) : Bool :=
  (g.options.map (·.1)).Nodup && g.flags.Nodup && g.operands.all (· ≠ "") &&
    g.options.all fun (name, value) => !pathOptions.contains name || value ≠ ""

/-- Whether only such options and flags are given. -/
def takesOnly (g : Given) (options flags : List String) : Bool :=
  g.options.all (options.contains ·.1) && g.flags.all flags.contains

/-- The value of an option. -/
def value? (g : Given) (name : String) : Option String :=
  g.options.lookup name

/-- The path that an option gives. -/
def path? (g : Given) (name : String) : Option Path :=
  (g.value? name).map Path.mk

end Given

/-! ## What a line asks for -/

/-- The command of this name, with what is given for it. -/
def ofGiven? (name : String) (g : Given) : Option Command :=
  if !g.isProper then none
  else
    match name with
    | "import" =>
      if g.takesOnly ["config", "db", "ext"] ["dry-run", "strict"] then
        some (.importScripts
          { paths := g.operands.map Path.mk
            database := g.path? "db"
            extension := g.value? "ext"
            dryRun := g.flags.contains "dry-run"
            strict := g.flags.contains "strict" })
      else none
    | "new" =>
      match g.operands with
      | [path] =>
        if g.takesOnly ["config", "title", "npc"] [] then
          some (.newScript ⟨path⟩ ((g.value? "title").getD Script.defaultTitle)
            ((g.value? "npc").getD Script.defaultConversant))
        else none
      | _ => none
    | "check" =>
      if g.operands.isEmpty && g.takesOnly ["config", "db"] [] then some (.check (g.path? "db"))
      else none
    | _ => none

end Command

/-- What a command line asks for, if it asks for anything. -/
def Invocation.ofWords? (words : List String) : Option Invocation := do
  let items ← Command.items? words
  let leads : Command.Item → Bool
    | .operand _ => false
    | _ => true
  let before := Command.Given.ofItems (items.takeWhile leads)
  match items.dropWhile leads with
  | .operand name :: after =>
    let after := Command.Given.ofItems after
    let command ← Command.ofGiven? name after
    if before.isProper && before.takesOnly ["config"] [] &&
        !(items.takeWhile leads).contains .separator then
      some ⟨(after.path? "config").or (before.path? "config"), command⟩
    else none
  | _ => none

end Dialogue
