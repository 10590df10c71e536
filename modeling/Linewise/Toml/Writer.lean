/-
Writing settings documents.

In every table the plain entries come first, one a line, then the sections in order: tables under a header with their
full path, and arrays of tables with such a header for every element. A table that holds only further sections needs no
header of its own, an empty one does. An empty line stands before a section, unless the section begins its table and no
plain entry was put before it, and before an element that follows one with entries. Texts are written as basic strings on
one line, keys bare where they can be. Absent values are left out.
-/
import Linewise.Toml.Value

namespace Linewise

namespace Value

mutual

/-- the value without absent entries and items -/
def present : Value → Value
  | .list items => .list (presentItems items)
  | .table entries => .table (presentEntries entries)
  | v => v

def presentItems : List Value → List Value
  | [] => []
  | .absent :: rest => presentItems rest
  | v :: rest => v.present :: presentItems rest

def presentEntries : List (Text × Value) → List (Text × Value)
  | [] => []
  | (_, .absent) :: rest => presentEntries rest
  | (k, v) :: rest => (k, v.present) :: presentEntries rest

end

def isTable : Value → Bool
  | .table _ => true
  | _ => false

/-- a list of tables and of nothing else, not empty -/
def isTableArray : Value → Bool
  | .list items => !items.isEmpty && items.all isTable
  | _ => false

/-- the value is written under headers of its own -/
def isSection (v : Value) : Bool := v.isTable || v.isTableArray

end Value

namespace Toml

/-- one character of a basic string -/
def escapeChar (c : Char) : Text :=
  if c = '"' then ['\\', '"']
  else if c = '\\' then ['\\', '\\']
  else if c = '\x08' then ['\\', 'b']
  else if c = '\t' then ['\\', 't']
  else if c = '\n' then ['\\', 'n']
  else if c = '\x0c' then ['\\', 'f']
  else if c = '\r' then ['\\', 'r']
  else if c.toNat < 32 || c = '\x7f' then "\\u" ++ Text.hex 4 c.toNat
  else [c]

/-- a text as a basic string -/
def basicString (t : Text) : Text := '"' :: t.flatMap escapeChar ++ ['"']

/-- a character that keys may hold without quotes -/
def isBareChar (c : Char) : Bool := c.isAlphanum || c == '-' || c == '_'

/-- a key, bare if it can be -/
def key (k : Text) : Text := if !k.isEmpty && k.all isBareChar then k else basicString k

mutual

/-- a value on one line; an inline table has spaces after its commas only if it is an item of a list -/
def inline : Value → Text
  | .absent => []
  | .bool b => if b then "true" else "false"
  | .int n => Text.ofInt n
  | .float x => x.render
  | .text t => basicString t
  | .moment m => m.render
  | .list items => ['['] ++ Text.join ", " (inlineItems items) ++ [']']
  | .table entries => ['\x7b'] ++ Text.join "," (inlineEntries entries) ++ ['\x7d']

def inlineItems : List Value → List Text
  | [] => []
  | .table entries :: rest => (['\x7b'] ++ Text.join ", " (inlineEntries entries) ++ ['\x7d']) :: inlineItems rest
  | v :: rest => inline v :: inlineItems rest

def inlineEntries : List (Text × Value) → List Text
  | [] => []
  | (k, v) :: rest => (key k ++ " = " ++ inline v) :: inlineEntries rest

end

/-- the plain entries of a table, one a line -/
def plainLines (entries : List (Text × Value)) : Text :=
  (entries.filter fun e => !e.2.isSection).flatMap fun e => key e.1 ++ " = " ++ inline e.2 ++ ['\n']

/-- a key after the path of its table -/
def pathTo (path : Text) (k : Text) : Text := if path.isEmpty then key k else path ++ ['.'] ++ key k

/-- the table has plain entries -/
def hasPlain (entries : List (Text × Value)) : Bool := entries.any fun e => !e.2.isSection

/-- an empty line where one is due -/
def emptyLine (due : Bool) : Text := if due then ['\n'] else []

/-- the header of a table; a table that holds only sections has none -/
def tableHeader (path : Text) (entries : List (Text × Value)) : Text :=
  if entries.isEmpty || hasPlain entries then ['['] ++ path ++ [']', '\n'] else []

mutual

/-- the sections among the entries of the table at a path, `begins` if they begin it, `plain` if it has plain
entries -/
def sections (path : Text) (plain : Bool) : Bool → List (Text × Value) → Text
  | _, [] => []
  | begins, (k, v) :: rest => entrySection (pathTo path k) plain begins v ++ sections path plain false rest

/-- one entry as a section, if it is written as one -/
def entrySection (path : Text) (plain begins : Bool) : Value → Text
  | .table entries =>
    emptyLine (!begins || plain) ++ tableHeader path entries ++ plainLines entries ++
      sections path (hasPlain entries) true entries
  | .list items => if (Value.list items).isTableArray then elements path (!begins) items else []
  | _ => []

/-- the elements of an array of tables, the first one after an empty line if one is due -/
def elements (path : Text) : Bool → List Value → Text
  | due, .table entries :: rest =>
    emptyLine due ++ ['[', '['] ++ path ++ [']', ']', '\n'] ++ plainLines entries ++
      sections path (hasPlain entries) true entries ++ elements path (!entries.isEmpty) rest
  | _, _ => []

end

/-- a document with these entries, none of them absent -/
def document (entries : Entries) : Text := plainLines entries ++ sections [] (hasPlain entries) true entries

/-- a document with these entries -/
def write (entries : Entries) : Text := document (Value.presentEntries entries)

end Toml

end Linewise
