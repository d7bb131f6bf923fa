import ScriptAudit.Json.Parser

/-!
# Strings and keys of TOML

Each reader takes the text from where it starts and returns what it read and the rest.

* `Toml.basic?`, `Toml.literal?` : strings on one line, with and without escapes.
* `Toml.multiline?` : strings over several lines.
* `Toml.key?` : a key of one or more parts.
-/

namespace ScriptAudit.Toml

/-- A space or a tab. -/
def isBlank (c : Char) : Bool :=
  c == ' ' || c == '\t'

/-- A space, a tab or a line end. -/
def isBlankOrLine (c : Char) : Bool :=
  isBlank c || c == '\n'

/-- A text without its leading spaces and tabs. -/
def skipBlanks (text : List Char) : List Char :=
  text.dropWhile isBlank

/-- A control character other than a tab. -/
def isControl (c : Char) : Bool :=
  (c.toNat < 0x20 && c != '\t') || c.toNat == 0x7F

/-- A control character that may not stand in a string. -/
def isIllegal (multiline : Bool) (c : Char) : Bool :=
  isControl c && !(multiline && c == '\n')

/-- The character of a code point, if it has one. -/
def charOf? (code : Nat) : Option Char :=
  if code.isValidChar then some (Char.ofNat code) else none

/-- The character of a single-letter escape. -/
def escaped? : Char → Option Char
  | '"' => some '"'
  | '\\' => some '\\'
  | 'b' => some (Char.ofNat 0x08)
  | 'f' => some (Char.ofNat 0x0C)
  | 'n' => some '\n'
  | 'r' => some '\r'
  | 't' => some '\t'
  | _ => none

/-- The value of hexadecimal digits. -/
def hexOf? (digits : List Char) : Option Nat :=
  digits.foldlM (fun value c => (Json.hexValue? c).map (value * 16 + ·)) 0

/-- The character written by so many hexadecimal digits. -/
def hexChar? (width : Nat) (text : List Char) : Option Char :=
  if text.length < width then none else (hexOf? (text.take width)).bind charOf?

/-- What follows a line end that is escaped: blanks may stand before it, and blanks and line ends
after it are skipped. -/
def foldLine? (text : List Char) : Option (List Char) :=
  match skipBlanks text with
  | '\n' :: rest => some (rest.dropWhile isBlankOrLine)
  | _ => none

/-- An escape after its backslash: the characters it stands for, and what follows it. -/
def escape? (multiline : Bool) : List Char → Option (List Char × List Char)
  | [] => none
  | c :: rest =>
    if multiline && isBlankOrLine c then (foldLine? (c :: rest)).map ([], ·)
    else if c = 'u' then (hexChar? 4 rest).map fun x => ([x], rest.drop 4)
    else if c = 'U' then (hexChar? 8 rest).map fun x => ([x], rest.drop 8)
    else (escaped? c).map fun x => ([x], rest)

/-- An escaped line end uses up part of the text. -/
theorem foldLine?_length {text rest : List Char} (h : foldLine? text = some rest) :
    rest.length < text.length := by
  unfold foldLine? at h
  split at h
  · next tail hdrop =>
    simp only [Option.some.injEq] at h
    subst h
    have h₁ := (List.dropWhile_suffix (l := text) isBlank).length_le
    have h₂ := (List.dropWhile_suffix (l := tail) isBlankOrLine).length_le
    rw [show text.dropWhile isBlank = '\n' :: tail from hdrop] at h₁
    simp only [List.length_cons] at h₁
    omega
  · simp at h

/-- An escape uses up part of the text. -/
theorem escape?_length {multiline : Bool} {text read rest : List Char}
    (h : escape? multiline text = some (read, rest)) : rest.length < text.length := by
  cases text with
  | nil => simp [escape?] at h
  | cons c tail =>
    simp only [escape?] at h
    split at h
    · obtain ⟨after, hafter, he⟩ := Option.map_eq_some_iff.1 h
      cases he
      exact foldLine?_length hafter
    · split at h
      · obtain ⟨x, -, he⟩ := Option.map_eq_some_iff.1 h
        cases he
        simp only [List.length_drop, List.length_cons]; omega
      · split at h
        · obtain ⟨x, -, he⟩ := Option.map_eq_some_iff.1 h
          cases he
          simp only [List.length_drop, List.length_cons]; omega
        · obtain ⟨x, -, he⟩ := Option.map_eq_some_iff.1 h
          cases he
          simp

/-- The body of a string with escapes, up to its closing quotes. The second argument holds the
characters already read, the last one first. -/
def basicBody? (multiline : Bool) (read : List Char) (text : List Char) :
    Option (List Char × List Char) :=
  match text with
  | [] => none
  | c :: rest =>
    if c = '"' then
      if !multiline then some (read.reverse, rest)
      else if ['"', '"'].isPrefixOf rest then some (read.reverse, rest.drop 2)
      else basicBody? multiline ('"' :: read) rest
    else if c = '\\' then
      match _escaped : escape? multiline rest with
      | some (chars, after) => basicBody? multiline (chars.reverse ++ read) after
      | none => none
    else if isIllegal multiline c then none
    else basicBody? multiline (c :: read) rest
termination_by text.length
decreasing_by
  · simp
  · have := escape?_length _escaped
    simp only [List.length_cons]; omega
  · simp

/-- What stands before a mark, and what follows it. -/
def before? (mark : List Char) : List Char → Option (List Char × List Char)
  | [] => none
  | c :: rest =>
    if mark.isPrefixOf (c :: rest) then some ([], (c :: rest).drop mark.length)
    else (before? mark rest).map fun (body, after) => (c :: body, after)

/-- The body of a string without escapes, up to a mark. -/
def literalBody? (multiline : Bool) (mark : List Char) (text : List Char) :
    Option (List Char × List Char) :=
  match before? mark text with
  | some (body, after) => if body.any (isIllegal multiline) then none else some (body, after)
  | none => none

/-- Up to two more quotes right after the closing ones belong to the string. -/
def moreQuotes (quote : Char) (body rest : List Char) : List Char × List Char :=
  let extra := (rest.takeWhile (· == quote)).length
  if extra = 0 then (body, rest)
  else if extra = 1 then (body ++ [quote], rest.drop 1)
  else (body ++ [quote, quote], rest.drop 2)

/-- A text without a line end at its head. -/
def skipLine : List Char → List Char
  | '\n' :: rest => rest
  | text => text

/-- A string that starts with a given quote; the text starts after that quote. -/
def string? (quote : Char) (text : List Char) : Option (List Char × List Char) :=
  let body? (multiline : Bool) (text : List Char) :=
    if quote = '"' then basicBody? multiline [] text
    else literalBody? multiline (if multiline then [quote, quote, quote] else [quote]) text
  if [quote, quote].isPrefixOf text then
    (body? true (skipLine (text.drop 2))).map fun (body, rest) => moreQuotes quote body rest
  else body? false text

/-- Whether a character may stand in a key without quotes. -/
def isKeyChar (c : Char) : Bool :=
  c.isAlphanum || c == '-' || c == '_'

/-- One part of a key. -/
def keyPart? : List Char → Option (String × List Char)
  | [] => none
  | c :: rest =>
    if isKeyChar c then
      some (String.ofList ((c :: rest).takeWhile isKeyChar), (c :: rest).dropWhile isKeyChar)
    else if c = '"' then (basicBody? false [] rest).map fun (body, rest) => (String.ofList body, rest)
    else if c = '\'' then
      (literalBody? false [c] rest).map fun (body, rest) => (String.ofList body, rest)
    else none

/-- A key: parts with points between them. The first argument bounds the number of parts. -/
def keyFrom? : Nat → List Char → Option (List String × List Char)
  | 0, _ => none
  | fuel + 1, text =>
    match keyPart? text with
    | none => none
    | some (part, rest) =>
      match skipBlanks rest with
      | '.' :: rest => (keyFrom? fuel (skipBlanks rest)).map fun (parts, rest) => (part :: parts, rest)
      | rest => some ([part], rest)

/-- A key of one or more parts, and what follows the blanks after it. -/
def key? (text : List Char) : Option (List String × List Char) :=
  keyFrom? (text.length + 1) text

end ScriptAudit.Toml
