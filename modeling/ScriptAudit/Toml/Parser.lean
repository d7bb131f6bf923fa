import ScriptAudit.Toml.Scalar
import ScriptAudit.Toml.Table

/-!
# Reading TOML

* `Toml.readValue` : a value at the head of a text.
* `Toml.Reading` : the tables read so far.
* `Toml.read` : the table of a whole text.
-/

namespace ScriptAudit.Toml

/-- What follows a comment, if one stands at the head of a text. A comment holds no control
characters. -/
def skipComment? : List Char → Option (List Char)
  | '#' :: rest =>
    if (rest.takeWhile (· != '\n')).any isControl then none else some (rest.dropWhile (· != '\n'))
  | text => some text

/-- What follows blanks, line ends and comments. The first argument bounds the number of
comments. -/
def skipGap? : Nat → List Char → Option (List Char)
  | 0, text => some text
  | fuel + 1, text =>
    match text.dropWhile isBlankOrLine with
    | '#' :: rest => (skipComment? ('#' :: rest)).bind (skipGap? fuel)
    | text => some text

/-- What follows blanks, line ends and comments. -/
def gap? (text : List Char) : Option (List Char) :=
  skipGap? (text.length + 1) text

/-- Adds an entry to an inline table. -/
def addInline? (entries : Entries) (marks : Marks) (key : List String) (value : Value) :
    Option Entries :=
  if marks.holds .frozen key then none
  else entries.nest? false (·.add? (key.getLast?.getD "") value) key.dropLast

/-- What a list adds to the nesting of its items. -/
def listDepth : Nat := 2

/-- What an inline table adds to the nesting of its values. -/
def tableDepth : Nat := 3

/-- The nesting that is left inside a collection. -/
def below (step depth : Nat) : Except Refusal Nat :=
  if step < depth then .ok (depth - step) else .error .tooDeep

mutual

/-- A value at the head of a text, and what follows it. The first argument bounds the number of
nested readings, and the second the nesting of collections. -/
def readValue : Nat → Nat → List Char → Except Refusal (Value × List Char)
  | 0, _, _ => .error .malformed
  | fuel + 1, depth, text =>
    match text with
    | '"' :: rest => do
      let (body, rest) ← Refusal.needed (string? '"' rest)
      return (.text (String.ofList body), rest)
    | '\'' :: rest => do
      let (body, rest) ← Refusal.needed (string? '\'' rest)
      return (.text (String.ofList body), rest)
    | '[' :: rest => do
      let depth ← below listDepth depth
      let rest ← Refusal.needed (gap? rest)
      let (items, rest) ← readItems fuel depth rest
      return (.list items, rest)
    | '\x7b' :: rest => do
      let depth ← below tableDepth depth
      match skipBlanks rest with
      | '\x7d' :: rest => return (.table [], rest)
      | rest =>
        let (entries, rest) ← readPairs fuel depth [] [] rest
        return (.table entries, rest)
    | _ => readScalar text

/-- The items of a list up to its closing bracket; a comma may follow the last one. -/
def readItems : Nat → Nat → List Char → Except Refusal (List Value × List Char)
  | 0, _, _ => .error .malformed
  | fuel + 1, depth, text =>
    match text with
    | ']' :: rest => .ok ([], rest)
    | _ => do
      let (item, rest) ← readValue fuel depth text
      match ← Refusal.needed (gap? rest) with
      | ']' :: rest => return ([item], rest)
      | ',' :: rest =>
        let rest ← Refusal.needed (gap? rest)
        let (items, rest) ← readItems fuel depth rest
        return (item :: items, rest)
      | _ => throw .malformed

/-- The pairs of an inline table up to its closing brace, added to those read before. -/
def readPairs : Nat → Nat → Entries → Marks → List Char → Except Refusal (Entries × List Char)
  | 0, _, _, _, _ => .error .malformed
  | fuel + 1, depth, entries, marks, text => do
    let (key, rest) ← Refusal.needed (key? text)
    let rest ← Refusal.needed (after? '=' rest)
    let (value, rest) ← readValue fuel depth (skipBlanks rest)
    let entries ← Refusal.needed (addInline? entries marks key value)
    match skipBlanks rest with
    | '\x7d' :: rest => return (entries, rest)
    | ',' :: rest => readPairs fuel depth entries (marks.freeze key value) (skipBlanks rest)
    | _ => throw .malformed

end

/-- The tables read so far, what is protected in them, what will be protected from the next header
on, and the path of the last header. -/
structure Reading where
  entries : Entries
  marks : Marks
  pending : Marks
  header : List String

namespace Reading

/-- Nothing read yet. -/
def start : Reading := ⟨[], [], [], []⟩

/-- The protected paths at a header. -/
def settled (r : Reading) : Marks :=
  r.pending ++ r.marks

/-- Opens a table by a header. -/
def openTable? (r : Reading) (key : List String) : Option Reading :=
  if r.settled.holds .declared key || r.settled.holds .frozen key then none
  else
    (r.entries.nest? true some key).map fun entries =>
      ⟨entries, ⟨key, .declared, false⟩ :: r.settled, [], key⟩

/-- Adds a table to a list by a header. -/
def openItem? (r : Reading) (key : List String) : Option Reading :=
  if r.settled.holds .frozen key then none
  else
    (r.entries.nest? true (·.append? (key.getLast?.getD "")) key.dropLast).map fun entries =>
      ⟨entries, ⟨key, .declared, false⟩ :: r.settled.release key, [], key⟩

/-- The paths of the tables that a key of several parts leads through. -/
def wayTo (header : List String) (key : List String) : List (List String) :=
  (List.range (key.length - 1)).map fun i => header ++ key.take (i + 1)

/-- Adds a value under a key of the last header. -/
def add? (r : Reading) (key : List String) (value : Value) : Option Reading :=
  let way := wayTo r.header key
  let above := r.header ++ key.dropLast
  if way.any (r.marks.holds .declared) || r.marks.holds .frozen above then none
  else
    (r.entries.nest? true (·.add? (key.getLast?.getD "") value) above).map fun entries =>
      { r with entries, marks := r.marks.freeze (r.header ++ key) value
               pending := way.map (⟨·, .declared, false⟩) ++ r.pending }

/-- Reads the header of a table. -/
def tableHeader? (r : Reading) (text : List Char) : Option (Reading × List Char) := do
  let (key, rest) ← key? (skipBlanks text)
  let r ← r.openTable? key
  let rest ← after? ']' rest
  return (r, rest)

/-- Reads the header of an item of a list of tables. -/
def itemHeader? (r : Reading) (text : List Char) : Option (Reading × List Char) := do
  let (key, rest) ← key? (skipBlanks text)
  let r ← r.openItem? key
  let rest ← after? ']' rest
  let rest ← after? ']' rest
  return (r, rest)

/-- Reads a key and its value. -/
def pair (depth : Nat) (r : Reading) (text : List Char) :
    Except Refusal (Reading × List Char) := do
  let (key, rest) ← Refusal.needed (key? text)
  let rest ← Refusal.needed (after? '=' rest)
  let rest := skipBlanks rest
  let (value, rest) ← readValue (rest.length + 1) depth rest
  let r ← Refusal.needed (r.add? key value)
  return (r, rest)

/-- Reads one statement, if there is one on the line. -/
def statement (depth : Nat) (r : Reading) (text : List Char) :
    Except Refusal (Reading × List Char) :=
  match text with
  | [] => .ok (r, [])
  | '\n' :: rest => .ok (r, '\n' :: rest)
  | '#' :: rest => .ok (r, '#' :: rest)
  | '[' :: '[' :: rest => Refusal.needed (r.itemHeader? rest)
  | '[' :: rest => Refusal.needed (r.tableHeader? rest)
  | _ => r.pair depth text

/-- Reads lines. The second argument bounds their number. -/
def lines (depth : Nat) : Nat → Reading → List Char → Except Refusal Reading
  | 0, _, _ => .error .malformed
  | fuel + 1, r, text => do
    let (r, rest) ← r.statement depth (skipBlanks text)
    match ← Refusal.needed (skipComment? (skipBlanks rest)) with
    | [] => return r
    | '\n' :: rest => lines depth fuel r rest
    | _ => throw .malformed

end Reading

/-- A text with a line feed for each pair of carriage return and line feed. -/
def unixLines : List Char → List Char
  | '\r' :: '\n' :: rest => '\n' :: unixLines rest
  | c :: rest => c :: unixLines rest
  | [] => []

/-- The table of a whole text, if it is TOML with so much nesting at most. Every line uses up a
character, so the length of the text bounds their number. -/
def read (depth : Nat) (text : List Char) : Except Refusal Entries :=
  (Reading.lines depth (text.length + 1) .start (unixLines text)).map (·.entries)

end ScriptAudit.Toml
