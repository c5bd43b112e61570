import ComponentCensus.Files.Reason
import ComponentCensus.Settings.Value
import ComponentCensus.Text.Quoted

/-!
# Tables of a configuration file

A configuration file builds its tables step by step.

* `Fault` — what can be wrong with a configuration file.  Messages that name a key show it as it is
  shown in a list, because they end up on the console, where a bracket in a key can be a tag.
* `updateAt` — a table with a change made at a key of several parts; tables on the way to it are
  made if they are not there.
* `Document` — the tables so far, and which of them may no longer be opened or changed.
* `Document.add` — the document with one more statement.
* `InlineTable.add` — a table between braces with one more pair.
-/

set_option autoImplicit false

namespace ComponentCensus
namespace Toml

open Settings

/-- What is wrong with a configuration file. -/
inductive Fault where
  | unreadable (reason : Reason)
  | notUtf8
  | badStatement
  | missingLineEnd
  | badKey
  | missingEquals
  | missingBracket
  | badValue
  | openText
  | badCharacter
  | badEscape
  | openArray
  | openTable
  | badMoment
  | longInteger
  /-- Values are nested too deep. -/
  | tooDeep
  /-- A header names a table that may not be opened again. -/
  | redeclared (key : List String)
  /-- A key goes through a table that may not be opened again. -/
  | redefined (key : List String)
  /-- A key leads into a value between brackets. -/
  | frozen (key : List String)
  /-- A key has a value already. -/
  | overwritten
  /-- A name has a value already in a table between braces. -/
  | duplicate (name : String)
deriving Repr, DecidableEq, Inhabited

/-- A key as it is shown in messages: its parts, quoted, between parentheses. -/
def keyText (key : List String) : String :=
  "(" ++ String.intercalate ", " (key.map Text.quoted) ++ (if key.length = 1 then ",)" else ")")

/-- A fault in words. -/
def Fault.message : Fault → String
  | unreadable reason => reason.text
  | notUtf8 => "The file is not UTF-8"
  | badStatement => "Invalid statement"
  | missingLineEnd => "Expected newline or end of document after a statement"
  | badKey => "Invalid initial character for a key part"
  | missingEquals => "Expected '=' after a key in a key/value pair"
  | missingBracket => "Expected a closing bracket at the end of a table declaration"
  | badValue => "Invalid value"
  | openText => "Unterminated string"
  | badCharacter => "Illegal character"
  | badEscape => "Invalid escape in a string"
  | openArray => "Unclosed array"
  | openTable => "Unclosed inline table"
  | badMoment => "Invalid date or datetime"
  | longInteger => "An integer has too many digits"
  | tooDeep => "Values are nested too deep"
  | redeclared key => "Cannot declare " ++ keyText key ++ " twice"
  | redefined key => "Cannot redefine namespace " ++ keyText key
  | frozen key => "Cannot mutate immutable namespace " ++ keyText key
  | overwritten => "Cannot overwrite a value"
  | duplicate name => "Duplicate inline table key " ++ Text.quoted name

/-- The entries of a table, in the order in which they were made. -/
abbrev Table := List (String × Value)

/-- The table with the value of one name set; a new name is put at the end. -/
def setValue (t : Table) (name : String) (v : Value) : Table :=
  if (t.lookup name).isSome then t.map fun e => if e.1 = name then (name, v) else e
  else t ++ [(name, v)]

/-- A table with the change `f` made at a key.  Tables on the way are made if they are not there;
an array on the way stands for its last table if `throughArrays` is set. -/
def updateAt (throughArrays : Bool) (f : Table → Option Table) : List String → Table →
    Option Table
  | [], t => f t
  | name :: key, t =>
    match t.lookup name with
    | none => (updateAt throughArrays f key []).map fun sub => t ++ [(name, .table sub)]
    | some (.table sub) =>
      (updateAt throughArrays f key sub).map fun sub => setValue t name (.table sub)
    | some (.list vs) =>
      if throughArrays then
        match vs.getLast? with
        | some (.table sub) =>
          (updateAt throughArrays f key sub).map fun sub =>
            setValue t name (.list (vs.dropLast ++ [.table sub]))
        | _ => none
      else none
    | some _ => none

/-- A table with a new name; a name that is there already is not set again. -/
def addValue (name : String) (v : Value) (t : Table) : Option Table :=
  if (t.lookup name).isSome then none else some (t ++ [(name, v)])

/-- A table in which an array of tables has one more, empty table. -/
def addTable (name : String) (t : Table) : Option Table :=
  match t.lookup name with
  | none => some (t ++ [(name, .list [.table []])])
  | some (.list vs) => some (setValue t name (.list (vs ++ [.table []])))
  | some _ => none

/-- Whether a value holds further values. -/
def holdsValues : Value → Bool
  | .table _ => true
  | .list _ => true
  | _ => false

/-- The beginnings of a key that are not empty, the key itself included. -/
def beginnings (key : List String) : List (List String) :=
  (List.range key.length).map fun i => key.take (i + 1)

/-- Whether one of some keys is a beginning of `key`. -/
def covers (keys : List (List String)) (key : List String) : Bool :=
  (beginnings key).any keys.contains

/-! ## Statements -/

/-- A statement of a configuration file. -/
inductive Statement where
  /-- What follows belongs to the table at a key. -/
  | table (key : List String)
  /-- What follows belongs to a new table of the array at a key. -/
  | arrayTable (key : List String)
  /-- A key has a value. -/
  | pair (key : List String) (value : Value)
deriving Repr, Inhabited

/-- The brackets that have to follow a statement. -/
def Statement.closing : Statement → List Char
  | table _ => [']']
  | arrayTable _ => [']', ']']
  | pair _ _ => []

/-- The tables of the statements so far. -/
structure Document where
  /-- The table of everything. -/
  root : Table := []
  /-- The table to which pairs belong. -/
  header : List String := []
  /-- The keys of tables that may not be opened again. -/
  declared : List (List String) := []
  /-- Keys that may not be opened from the next header on. -/
  pending : List (List String) := []
  /-- The keys of values between brackets, below which nothing may be added. -/
  closed : List (List String) := []
deriving Repr, Inhabited

namespace Document

/-- A result, or the fault that there is none. -/
def orFault {α : Type} (result : Option α) (fault : Fault) : Except Fault α :=
  match result with
  | some a => .ok a
  | none => .error fault

/-- The document with the header of a table. -/
def addHeader (d : Document) (key : List String) : Except Fault Document := do
  let declared := d.pending ++ d.declared
  if declared.contains key || covers d.closed key then throw (.redeclared key)
  let root ← orFault (updateAt true some key d.root) .overwritten
  return { d with root, header := key, declared := key :: declared, pending := [] }

/-- The document with the header of a table of an array. -/
def addArrayHeader (d : Document) (key : List String) : Except Fault Document := do
  if covers d.closed key then throw (.frozen key)
  let free := fun (k : List String) => !key.isPrefixOf k
  let declared := (d.pending ++ d.declared).filter free
  let closed := d.closed.filter free
  let root ← orFault (updateAt true (addTable (key.getLast?.getD "")) key.dropLast d.root)
    .overwritten
  return { root, header := key, declared := key :: declared, pending := [], closed }

/-- The document with a pair. -/
def addPair (d : Document) (key : List String) (v : Value) : Except Fault Document := do
  let above := (beginnings key.dropLast).map (d.header ++ ·)
  if let some k := above.find? d.declared.contains then throw (.redefined k)
  let parent := d.header ++ key.dropLast
  if covers d.closed parent then throw (.frozen parent)
  let full := d.header ++ key
  let root ← orFault (updateAt true (addValue (key.getLast?.getD "") v) parent d.root)
    .overwritten
  return { d with
    root
    pending := above ++ d.pending
    closed := if holdsValues v then full :: d.closed else d.closed }

/-- The document with one more statement. -/
def add (d : Document) : Statement → Except Fault Document
  | .table key => d.addHeader key
  | .arrayTable key => d.addArrayHeader key
  | .pair key v => d.addPair key v

end Document

/-- A table between braces. -/
structure InlineTable where
  /-- Its entries. -/
  entries : Table := []
  /-- The keys of values between brackets, below which nothing may be added. -/
  closed : List (List String) := []
deriving Repr, Inhabited

/-- The table with one more pair. -/
def InlineTable.add (t : InlineTable) (key : List String) (v : Value) :
    Except Fault InlineTable := do
  if covers t.closed key then throw (.frozen key)
  let name := key.getLast?.getD ""
  if (updateAt false some key.dropLast t.entries).isNone then throw .overwritten
  match updateAt false (addValue name v) key.dropLast t.entries with
  | none => throw (.duplicate name)
  | some entries =>
    return { entries, closed := if holdsValues v then key :: t.closed else t.closed }

end Toml
end ComponentCensus
