/-!
# Tables of settings

What a settings file holds: texts, lists of values, and tables of named values. No setting is a
number, a truth value, a date or a time; one of these may stand only where nothing is set, and
counts for nothing there, so all of them are one value.

An entry is put into a table under a **key**, which has one name for every table on the way. A name
is given once. Only a table that came into being on the way to an entry takes further entries by
longer keys; one that was written as a value or under a heading of its own is complete.
-/

namespace Dialogue.Settings

/-- A value of a settings file. -/
inductive Value
  | text (text : String)
  | list (items : List Value)
  /-- A table, and whether longer keys may add to it. -/
  | table (extensible : Bool) (entries : List (String × Value))
  /-- A number, a truth value, a date or a time. -/
  | other

/-- The named values of a table, in the order in which they were written. -/
abbrev Entries := List (String × Value)

/-- The entries of a table, with this one under a key. -/
def Entries.insertAt? : List String → Value → Entries → Option Entries
  | [], _, _ => none
  | [name], v, es => if (es.lookup name).isSome then none else some (es ++ [(name, v)])
  | name :: key, v, es =>
    match es.lookup name with
    | none => do
      let inner ← Entries.insertAt? key v []
      some (es ++ [(name, .table true inner)])
    | some (.table true inner) => do
      let inner ← Entries.insertAt? key v inner
      some (es.map fun e => if e.1 = name then (name, .table true inner) else e)
    | some _ => none

/-- The entries of a table that hold these values under these keys. -/
def Entries.ofPairs? (pairs : List (List String × Value)) : Option Entries :=
  pairs.foldlM (fun es (key, v) => Entries.insertAt? key v es) []

/-- The names in a table. -/
def Entries.names (es : Entries) : List String :=
  es.map (·.1)

/-- A value that is a text. -/
def Value.text? : Value → Option String
  | .text s => some s
  | _ => none

/-- A value that is a list of texts. -/
def Value.texts? : Value → Option (List String)
  | .list vs => vs.mapM Value.text?
  | _ => none

end Dialogue.Settings
