/-!
# Patterns

Regular expressions over characters, matched by derivatives.

* `Pattern` : the expressions.
* `Pattern.acceptsEmpty`, `Pattern.after` : whether the empty text matches, and what has to match
  after a character.
* `Pattern.matchesHead` : whether some beginning of a text matches.
* `Pattern.occursIn` : whether some stretch of a text matches.
-/

namespace ScriptAudit

/-- A regular expression: no text, the empty text, one character of a class, two expressions in a
row, either of two expressions, any number of repetitions. -/
inductive Pattern where
  | never
  | empty
  | char (holds : Char → Bool)
  | andThen (first second : Pattern)
  | either (left right : Pattern)
  | many (body : Pattern)

namespace Pattern

/-- Whether the empty text matches. -/
def acceptsEmpty : Pattern → Bool
  | never => false
  | empty => true
  | char _ => false
  | andThen first second => first.acceptsEmpty && second.acceptsEmpty
  | either left right => left.acceptsEmpty || right.acceptsEmpty
  | many _ => true

/-- Two expressions in a row; nothing follows an expression that never matches. -/
def followedBy : Pattern → Pattern → Pattern
  | never, _ => never
  | empty, second => second
  | first, second => andThen first second

/-- Either of two expressions. -/
def orElse : Pattern → Pattern → Pattern
  | never, right => right
  | left, never => left
  | left, right => either left right

/-- What has to match after a character. -/
def after (c : Char) : Pattern → Pattern
  | never => never
  | empty => never
  | char holds => if holds c then empty else never
  | andThen first second =>
    if first.acceptsEmpty then ((first.after c).followedBy second).orElse (second.after c)
    else (first.after c).followedBy second
  | either left right => (left.after c).orElse (right.after c)
  | many body => (body.after c).followedBy (many body)

/-- Whether an expression is the one that never matches. -/
def isNever : Pattern → Bool
  | never => true
  | _ => false

/-- Whether some beginning of a text matches. -/
def matchesHead (p : Pattern) : List Char → Bool
  | [] => p.acceptsEmpty
  | c :: rest => p.acceptsEmpty || (!p.isNever && (p.after c).matchesHead rest)

/-- Whether some stretch of a text matches. -/
def occursIn (p : Pattern) : List Char → Bool
  | [] => p.matchesHead []
  | c :: rest => p.matchesHead (c :: rest) || p.occursIn rest

/-- An expression or nothing. -/
def optional (p : Pattern) : Pattern :=
  either p empty

/-- One repetition or more. -/
def some (p : Pattern) : Pattern :=
  andThen p (many p)

/-- Two repetitions or more. -/
def repeated (p : Pattern) : Pattern :=
  andThen p (andThen p (many p))

/-- One given character. -/
def exactly (c : Char) : Pattern :=
  char (· == c)

end Pattern

end ScriptAudit
