import ScriptAudit.Decimal.Notation

/-!
# Moments

Dates, times of day and both together, as a settings file may hold them.

* `Date`, `Clock`, `Moment` : the three kinds of moment; an offset belongs to a full moment only.
* `Moment.text` : the moment as a person writes it.
* `Moment.literal` : the moment as a constructor expression.
-/

namespace ScriptAudit

/-- A number with at least a given count of digits. -/
def padded (width n : Nat) : String :=
  let digits := Nat.toDigits 10 n
  String.ofList (List.replicate (width - digits.length) '0' ++ digits)

/-- A day of the calendar. -/
structure Date where
  year : Nat
  month : Nat
  day : Nat
  deriving DecidableEq, Repr

/-- A time of day. -/
structure Clock where
  hour : Nat
  minute : Nat
  second : Nat
  microsecond : Nat
  deriving DecidableEq, Repr

/-- A date, a time of day, or a date with a time and perhaps an offset from universal time in
minutes. -/
inductive Moment where
  | date (date : Date)
  | clock (clock : Clock)
  | full (date : Date) (clock : Clock) (offset : Option Int)
  deriving DecidableEq, Repr

/-- A date in the order year, month, day. -/
def Date.text (d : Date) : String :=
  padded 4 d.year ++ "-" ++ padded 2 d.month ++ "-" ++ padded 2 d.day

/-- A time of day; the fraction of a second is left out when it is zero. -/
def Clock.text (c : Clock) : String :=
  padded 2 c.hour ++ ":" ++ padded 2 c.minute ++ ":" ++ padded 2 c.second
    ++ (if c.microsecond = 0 then "" else "." ++ padded 6 c.microsecond)

/-- An offset from universal time as a signed hour and minute. -/
def offsetText (minutes : Int) : String :=
  (if minutes < 0 then "-" else "+") ++ padded 2 (minutes.natAbs / 60) ++ ":"
    ++ padded 2 (minutes.natAbs % 60)

/-- A date and a time with a separator between them. -/
def stampText (separator : String) (d : Date) (c : Clock) (offset : Option Int) : String :=
  d.text ++ separator ++ c.text ++ (offset.map offsetText).getD ""

/-- The moment as a person writes it. -/
def Moment.text : Moment → String
  | .date d => d.text
  | .clock c => c.text
  | .full d c offset => stampText " " d c offset

/-- The name of a moment's kind. -/
def Moment.kindName : Moment → String
  | .date _ => "datetime.date"
  | .clock _ => "datetime.time"
  | .full .. => "datetime.datetime"

/-- The fields of a time of day, without a trailing run of zeros in seconds and below. -/
def Clock.fields (c : Clock) : List String :=
  [natText c.hour, natText c.minute]
    ++ (if c.second = 0 ∧ c.microsecond = 0 then [] else [natText c.second])
    ++ (if c.microsecond = 0 then [] else [natText c.microsecond])

/-- An offset from universal time as a constructor expression. -/
def offsetLiteral (minutes : Int) : String :=
  if minutes = 0 then "datetime.timezone.utc"
  else
    let days := Int.fdiv (minutes * 60) 86400
    let seconds := minutes * 60 - days * 86400
    "datetime.timezone(datetime.timedelta("
      ++ (if days = 0 then "" else "days=" ++ intText days ++ (if seconds = 0 then "" else ", "))
      ++ (if seconds = 0 then "" else "seconds=" ++ intText seconds) ++ "))"

/-- The moment as a constructor expression. -/
def Moment.literal (m : Moment) : String :=
  let fields :=
    match m with
    | .date d => [natText d.year, natText d.month, natText d.day]
    | .clock c => c.fields
    | .full d c offset =>
      [natText d.year, natText d.month, natText d.day] ++ c.fields
        ++ (offset.map fun minutes => "tzinfo=" ++ offsetLiteral minutes).toList
  m.kindName ++ "(" ++ ", ".intercalate fields ++ ")"

end ScriptAudit
