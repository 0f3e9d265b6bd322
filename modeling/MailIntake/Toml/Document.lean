import MailIntake.Toml.Scalar
/-!
TOML documents.  A document is read line by line into a tree of tables that remembers how each
table came about, since that decides whether a later line may add to it: a table is defined once,
by a header, by dotted keys or in line.
-/
namespace MailIntake.Toml

open Text

/-- How a table came about. -/
inductive Origin
  /-- On the way to a table named in a header. -/
  | passing
  /-- By a header of its own. -/
  | header
  /-- By a dotted key. -/
  | dotted
deriving DecidableEq, Repr

/-- A value of the tree being built. -/
inductive Node
  /-- A finished value; tables and arrays in line are finished. -/
  | leaf (value : Value)
  /-- A table that may get further entries. -/
  | table (origin : Origin) (entries : List (String × Node))
  /-- An array of tables, of which the last one may get further entries. -/
  | tables (finished : List (List (String × Node))) (last : List (String × Node))

abbrev Entries := List (String × Node)

def Entries.find? (entries : Entries) (key : String) : Option Node :=
  (entries.findSome? fun entry => if entry.1 = key then some entry.2 else none)

def Entries.replace (entries : Entries) (key : String) (node : Node) : Entries :=
  entries.map fun entry => if entry.1 = key then (key, node) else entry

mutual

def Node.toValue : Node → Value
  | .leaf value => value
  | .table _ entries => .table (entryValues entries)
  | .tables finished last => .array (tableValues finished ++ [.table (entryValues last)])

def entryValues : List (String × Node) → List (String × Value)
  | [] => []
  | (key, node) :: rest => (key, node.toValue) :: entryValues rest

def tableValues : List (List (String × Node)) → List Value
  | [] => []
  | entries :: rest => .table (entryValues entries) :: tableValues rest

end

/-- Changes the table at the end of a path that a header names: tables on the way are made where
they are missing, and an array of tables stands for its last table. -/
def alongHeader (change : Entries → Option Entries) : List String → Entries → Option Entries
  | [], entries => change entries
  | key :: path, entries =>
      match entries.find? key with
      | none => (alongHeader change path []).map fun inner =>
          entries ++ [(key, .table .passing inner)]
      | some (.table origin inner) => (alongHeader change path inner).map fun inner =>
          entries.replace key (.table origin inner)
      | some (.tables finished last) => (alongHeader change path last).map fun last =>
          entries.replace key (.tables finished last)
      | some (.leaf _) => none

/-- Changes the table at the end of the path of a dotted key: tables on the way are made where they
are missing, an array of tables stands for its last table, and a table with a header of its own is
closed to dotted keys.  The table at the end must have come about by dotted keys. -/
def alongDots (change : Entries → Option Entries) : List String → Entries → Option Entries
  | [], entries => change entries
  | key :: path, entries =>
      match entries.find? key with
      | none => (alongDots change path []).map fun inner =>
          entries ++ [(key, .table .dotted inner)]
      | some (.table .dotted inner) => (alongDots change path inner).map fun inner =>
          entries.replace key (.table .dotted inner)
      | some (.table .passing inner) =>
          if path.isEmpty then none
          else (alongDots change path inner).map fun inner =>
            entries.replace key (.table .passing inner)
      | some (.tables finished last) =>
          if path.isEmpty then none
          else (alongDots change path last).map fun last =>
            entries.replace key (.tables finished last)
      | some (.table .header _) | some (.leaf _) => none

/-- Adds a value under a key that is not there yet. -/
def addLeaf (key : String) (value : Value) (entries : Entries) : Option Entries :=
  match entries.find? key with
  | none => some (entries ++ [(key, .leaf value)])
  | some _ => none

def openTable (key : String) (entries : Entries) : Option Entries :=
  match entries.find? key with
  | none => some (entries ++ [(key, .table .header [])])
  | some (.table .passing inner) => some (entries.replace key (.table .header inner))
  | some _ => none

/-- Adds a table to the array of tables that a header names. -/
def openElement (key : String) (entries : Entries) : Option Entries :=
  match entries.find? key with
  | none => some (entries ++ [(key, .tables [] [])])
  | some (.tables finished last) => some (entries.replace key (.tables (finished ++ [last]) []))
  | some _ => none

/-- The first parts of a key and its last one. -/
def lastOf? : List String → Option (List String × String)
  | [] => none
  | [key] => some ([], key)
  | key :: rest => (lastOf? rest).map fun (path, last) => (key :: path, last)

/-- Characters of a key without quotes. -/
def isKeyChar (c : Char) : Bool :=
  Ascii.isAlphanum c || c == '_' || c == '-'

def simpleKey : Read String := fun text =>
  match lineString text with
  | some found => some found
  | none =>
      match text.takeWhile isKeyChar with
      | [] => none
      | key => some (String.ofList key, text.drop key.length)

def maxKeyParts : Nat := 80

/-- The parts of a key with dots between them, and what follows it and its blanks.  The count bounds
how many parts there are. -/
def keyParts : Nat → Read (List String)
  | 0, _ => none
  | more + 1, text => do
      let (part, rest) ← simpleKey text
      match skipSpaces rest with
      | '.' :: rest =>
          let (parts, rest) ← keyParts more (skipSpaces rest)
          return (part :: parts, rest)
      | rest => return ([part], rest)

def key : Read (List String) := keyParts maxKeyParts

/-- The text behind a comment, which ends before the line end; other text is left as it is. -/
def skipComment? (text : List Char) : Option (List Char) :=
  match text with
  | '#' :: rest =>
      let rest := rest.dropWhile isPlain
      match rest with
      | [] => some []
      | _ => (newline? rest).map fun _ => rest
  | _ => some text

/-- The text behind blanks, comments and line ends.  The count bounds how many there are. -/
def skipLines? : Nat → List Char → Option (List Char)
  | 0, text => some text
  | more + 1, text => do
      let rest ← skipComment? (skipSpaces text)
      match newline? rest with
      | some rest => skipLines? more rest
      | none => return rest

/-- How deep arrays and tables in line may stand inside each other. -/
def maxDepth : Nat := 80

mutual

/-- A value.  The first count bounds the nesting, the second one the length. -/
def value : Nat → Nat → Read Value
  | _, 0, _ => none
  | depth, more + 1, text =>
      match text with
      | '[' :: rest =>
          match depth with
          | 0 => none
          | depth + 1 => do
              let (items, rest) ← elements depth more rest
              return (.array items, rest)
      | '\x7b' :: rest =>
          match depth with
          | 0 => none
          | depth + 1 => do
              let (entries, rest) ← inlineEntries depth more [] rest
              return (.table (entryValues entries), rest)
      | '"' :: _ | '\'' :: _ => (anyString text).map fun (s, rest) => (.text s, rest)
      | _ => scalar text

/-- The elements of an array up to its closing bracket. -/
def elements : Nat → Nat → Read (List Value)
  | _, 0, _ => none
  | depth, more + 1, text => do
      let text ← skipLines? more text
      match text with
      | ']' :: rest => return ([], rest)
      | _ =>
          let (first, rest) ← value depth more text
          let rest ← skipLines? more rest
          match rest with
          | ',' :: rest =>
              let (items, rest) ← elements depth more rest
              return (first :: items, rest)
          | ']' :: rest => return ([first], rest)
          | _ => none

/-- The entries of a table in line up to its closing brace, added to those before them. -/
def inlineEntries : Nat → Nat → Entries → Read Entries
  | _, 0, _, _ => none
  | depth, more + 1, entries, text => do
      let text ← skipLines? more text
      match text with
      | '\x7d' :: rest => return (entries, rest)
      | _ =>
          let (parts, rest) ← key text
          let rest ← behind? '=' (← skipLines? more rest)
          let (v, rest) ← value depth more (← skipLines? more rest)
          let (path, last) ← lastOf? parts
          let entries ← alongDots (addLeaf last v) path entries
          let rest ← skipLines? more rest
          match rest with
          | ',' :: rest => inlineEntries depth more entries rest
          | '\x7d' :: rest => return (entries, rest)
          | _ => none

end

/-- The text behind the end of a line with nothing but blanks and a comment left. -/
def lineEnd? (text : List Char) : Option (List Char) := do
  let rest ← skipComment? (skipSpaces text)
  match rest with
  | [] => return []
  | _ => newline? rest

/-- A document being read: its tree, and the path of the table that plain lines go to. -/
structure Reading where
  root : Entries := []
  path : List String := []

/-- Reads one line that begins with a bracket: the header of a table or of an element of an array
of tables. -/
def headerLine (r : Reading) (text : List Char) : Option (Reading × List Char) := do
  let (element, text) :=
    match text with
    | '[' :: rest => (true, rest)
    | _ => (false, text)
  let (parts, rest) ← key (skipSpaces text)
  let rest ← behind? ']' rest
  let rest ← if element then behind? ']' rest else some rest
  let (path, last) ← lastOf? parts
  let root ← alongHeader (if element then openElement last else openTable last) path r.root
  return (⟨root, parts⟩, rest)

/-- Reads one line with a key and a value. -/
def entryLine (r : Reading) (text : List Char) : Option (Reading × List Char) := do
  let (parts, rest) ← key text
  let rest ← behind? '=' rest
  let (v, rest) ← value maxDepth (rest.length + 1) (skipSpaces rest)
  let (path, last) ← lastOf? parts
  let root ← alongHeader (alongDots (addLeaf last v) path) r.path r.root
  return ({ r with root := root }, rest)

/-- Reads lines to the end of the document.  The count bounds how many there are. -/
def lines : Nat → Reading → List Char → Option Reading
  | 0, _, _ => none
  | more + 1, r, text =>
      match skipSpaces text with
      | [] => some r
      | '[' :: rest => do
          let (r, rest) ← headerLine r rest
          lines more r (← lineEnd? rest)
      | c :: rest =>
          if c = '#' ∨ c = '\n' ∨ c = '\r' then do
            lines more r (← lineEnd? (c :: rest))
          else do
            let (r, rest) ← entryLine r (c :: rest)
            lines more r (← lineEnd? rest)

/-- The entries of a document; a byte order mark at its head is left out. -/
def parse? (text : String) : Option (List (String × Value)) :=
  let chars :=
    match text.toList with
    | '\uFEFF' :: rest => rest
    | chars => chars
  (lines (chars.length + 1) {} chars).map fun r => entryValues r.root

end MailIntake.Toml
