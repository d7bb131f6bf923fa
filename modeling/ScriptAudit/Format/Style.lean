import ScriptAudit.Decimal.Reading
import ScriptAudit.Text.Blank
import ScriptAudit.Text.Case
import ScriptAudit.Text.Line

/-!
# Styles of text

A style in words, such as `bold red on white`: attributes, which may be negated, a colour, the
colour of the background, and a link. Two ways to say the same have one normal form.

* `Style` : what a style says.
* `Style.read` : the style of some words.
* `Style.normalName` : the normal form of any text.
-/

namespace ScriptAudit

/-- What a style says: attributes that are on or off, two colours, and a link. -/
structure Style where
  switch : String → Option Bool
  colour : Option String
  background : Option String
  link : Option String

namespace Style

/-- Why words are no style. A colour whose parts are missing cannot even be asked about. -/
inductive Refused where
  | unknown
  | broken
  deriving DecidableEq, Repr

/-- A style that says nothing. -/
def nothing : Style := ⟨fun _ => none, none, none, none⟩

/-- The attributes in the order in which they are written. -/
def attributes : List String :=
  ["bold", "dim", "italic", "underline", "blink", "blink2", "reverse", "conceal", "strike",
    "underline2", "frame", "encircle", "overline"]

/-- The short names of attributes. -/
def shortNames : List (String × String) :=
  [("d", "dim"), ("b", "bold"), ("i", "italic"), ("u", "underline"), ("r", "reverse"),
    ("c", "conceal"), ("s", "strike"), ("uu", "underline2"), ("o", "overline")]

/-- The attribute that a word stands for. -/
def attribute? (word : String) : Option String :=
  if attributes.contains word then some word else shortNames.lookup word

/-- The names of colours. -/
def colourSource : List String := [
  "black red green yellow blue magenta cyan white bright_black bright_red bright_green",
  "bright_yellow bright_blue bright_magenta bright_cyan bright_white grey0 gray0 navy_blue",
  "dark_blue blue3 blue1 dark_green deep_sky_blue4 dodger_blue3 dodger_blue2 green4",
  "spring_green4 turquoise4 deep_sky_blue3 dodger_blue1 green3 spring_green3 dark_cyan",
  "light_sea_green deep_sky_blue2 deep_sky_blue1 spring_green2 cyan3 dark_turquoise",
  "turquoise2 green1 spring_green1 medium_spring_green cyan2 cyan1 dark_red deep_pink4",
  "purple4 purple3 blue_violet orange4 grey37 gray37 medium_purple4 slate_blue3 royal_blue1",
  "chartreuse4 dark_sea_green4 pale_turquoise4 steel_blue steel_blue3 cornflower_blue",
  "chartreuse3 cadet_blue sky_blue3 steel_blue1 pale_green3 sea_green3 aquamarine3",
  "medium_turquoise chartreuse2 sea_green2 sea_green1 aquamarine1 dark_slate_gray2",
  "dark_magenta dark_violet purple light_pink4 plum4 medium_purple3 slate_blue1 yellow4",
  "wheat4 grey53 gray53 light_slate_grey light_slate_gray medium_purple light_slate_blue",
  "dark_olive_green3 dark_sea_green light_sky_blue3 sky_blue2 dark_sea_green3",
  "dark_slate_gray3 sky_blue1 chartreuse1 light_green pale_green1 dark_slate_gray1 red3",
  "medium_violet_red magenta3 dark_orange3 indian_red hot_pink3 medium_orchid3 medium_orchid",
  "medium_purple2 dark_goldenrod light_salmon3 rosy_brown grey63 gray63 medium_purple1 gold3",
  "dark_khaki navajo_white3 grey69 gray69 light_steel_blue3 light_steel_blue yellow3",
  "dark_sea_green2 light_cyan3 light_sky_blue1 green_yellow dark_olive_green2",
  "dark_sea_green1 pale_turquoise1 deep_pink3 magenta2 hot_pink2 orchid medium_orchid1",
  "orange3 light_pink3 pink3 plum3 violet light_goldenrod3 tan misty_rose3 thistle3 plum2",
  "khaki3 light_goldenrod2 light_yellow3 grey84 gray84 light_steel_blue1 yellow2",
  "dark_olive_green1 honeydew2 light_cyan1 red1 deep_pink2 deep_pink1 magenta1 orange_red1",
  "indian_red1 hot_pink dark_orange salmon1 light_coral pale_violet_red1 orchid2 orchid1",
  "orange1 sandy_brown light_salmon1 light_pink1 pink1 plum1 gold1 navajo_white1 misty_rose1",
  "thistle1 yellow1 light_goldenrod1 khaki1 wheat1 cornsilk1 grey100 gray100 grey3 gray3",
  "grey7 gray7 grey11 gray11 grey15 gray15 grey19 gray19 grey23 gray23 grey27 gray27 grey30",
  "gray30 grey35 gray35 grey39 gray39 grey42 gray42 grey46 gray46 grey50 gray50 grey54",
  "gray54 grey58 gray58 grey62 gray62 grey66 gray66 grey70 gray70 grey74 gray74 grey78",
  "gray78 grey82 gray82 grey85 gray85 grey89 gray89 grey93 gray93"
]

/-- The names of colours, one by one. -/
def colourNames : List String :=
  "default" :: colourSource.flatMap (Text.splitString ' ')

/-- The greatest part of a colour. -/
def mostOfColour : Nat := 255

/-- What stands between a word with an opening bracket and a closing bracket. -/
def argument? (opening : String) (word : List Char) : Option (List Char) :=
  if opening.toList.isPrefixOf word && word.getLast? == some ')' then
    some ((word.drop opening.length).dropLast)
  else none

/-- Whether a word is six hexadecimal digits after a number sign. -/
def isHexColour (word : List Char) : Bool :=
  word.head? == some '#' && word.length == 7 &&
    (word.drop 1).all fun c => ('0' ≤ c && c ≤ '9') || ('a' ≤ c && c ≤ 'f')

/-- The number of a colour of a palette, in at most three digits. -/
def isPaletteColour (word : List Char) : Bool :=
  match argument? "color(" word with
  | some digits =>
    !digits.isEmpty && digits.length ≤ 3 && digits.all Char.isDigit &&
      digitsValue (digits.map fun c => c.toNat - 0x30) ≤ mostOfColour
  | none => false

/-- Checks the parts of a colour that is given by three numbers. -/
def checkParts (parts : List (List Char)) : Except Refused Unit :=
  if parts.length ≠ 3 then .error .unknown
  else if parts.any List.isEmpty then .error .broken
  else if parts.all fun part => digitsValue (part.filterMap Text.digitValue?) ≤ mostOfColour then
    .ok ()
  else .error .unknown

/-- The name of the colour that a word stands for. -/
def readColour (word : List Char) : Except Refused String :=
  let word := Text.lower word
  let name := String.ofList word
  if colourNames.contains name || isHexColour word || isPaletteColour word then .ok name
  else
    match argument? "rgb(" word with
    | none => .error .unknown
    | some body =>
      if !body.isEmpty && body.all fun c => c == ',' || (Text.digitValue? c).isSome then
        (checkParts (Text.split ',' body)).map fun _ => name
      else .error .unknown

/-- Switches an attribute. -/
def switched (s : Style) (name : String) (isOn : Bool) : Style :=
  { s with switch := fun other => if other = name then some isOn else s.switch other }

/-- Adds what words say to a style. Later words win over earlier ones. -/
def readWords (s : Style) : List (List Char) → Except Refused Style
  | [] => .ok s
  | word :: rest =>
    let keyword := Text.lowerString (String.ofList word)
    match keyword, rest with
    | "on", colour :: rest => do
      let name ← readColour colour
      readWords { s with background := some name } rest
    | "not", name :: rest =>
      match attribute? (String.ofList name) with
      | some name => readWords (s.switched name false) rest
      | none => .error .unknown
    | "link", url :: rest => readWords { s with link := some (String.ofList url) } rest
    | _, rest =>
      match attribute? keyword with
      | some name => readWords (s.switched name true) rest
      | none => do
        let name ← readColour word
        readWords { s with colour := some name } rest

/-- The words of a text. -/
def words (text : List Char) : List (List Char) :=
  (Text.split ' ' (text.map fun c => if Text.isBlank c then ' ' else c)).filter (!·.isEmpty)

/-- The word for a style that says nothing. -/
def nothingWord : String := "none"

/-- The style of a text. -/
def read (text : List Char) : Except Refused Style :=
  if String.ofList (Text.strip text) = nothingWord then .ok nothing
  else readWords nothing (words text)

/-- A style in words, in their normal order. -/
def text (s : Style) : String :=
  let attributes := attributes.filterMap fun name =>
    (s.switch name).map fun isOn => if isOn then name else "not " ++ name
  let all := attributes ++ s.colour.toList ++ (s.background.map ("on " ++ ·)).toList
    ++ (s.link.map ("link " ++ ·)).toList
  if all.isEmpty then nothingWord else " ".intercalate all

/-- The normal form of a text: that of the style it describes, or else the text in lower case. -/
def normalName (text : List Char) : Option String :=
  match read text with
  | .ok s => some s.text
  | .error .unknown => some (String.ofList (Text.lower (Text.strip text)))
  | .error .broken => none

end Style

end ScriptAudit
