import SmellScan.Console.ColorName
import SmellScan.Numeric.Numeral
import SmellScan.Text.Case
import SmellScan.Text.Lines

/-!
# Styles

A style is written as words: attributes, a colour, a colour behind `on` for the background, and an
address behind `link`. The same style can be written in several ways; `normalName` gives one text
for all of them, so that two tags agree if their styles do.
-/

namespace SmellScan.Console

open Text

/-- What can be switched on or off in a style, in the order in which it is written. -/
inductive Attribute where
  | bold
  | dim
  | italic
  | underline
  | blink
  | blink2
  | reverse
  | conceal
  | strike
  | underline2
  | frame
  | encircle
  | overline
  deriving DecidableEq, Repr

namespace Attribute

/-- All attributes, in order. -/
def all : List Attribute :=
  [bold, dim, italic, underline, blink, blink2, reverse, conceal, strike, underline2, frame,
   encircle, overline]

/-- The name of an attribute. -/
def name : Attribute → String
  | bold => "bold"
  | dim => "dim"
  | italic => "italic"
  | underline => "underline"
  | blink => "blink"
  | blink2 => "blink2"
  | reverse => "reverse"
  | conceal => "conceal"
  | strike => "strike"
  | underline2 => "underline2"
  | frame => "frame"
  | encircle => "encircle"
  | overline => "overline"

/-- The short name of an attribute that has one. -/
def shortName? : Attribute → Option String
  | bold => some "b"
  | dim => some "d"
  | italic => some "i"
  | underline => some "u"
  | reverse => some "r"
  | conceal => some "c"
  | strike => some "s"
  | underline2 => some "uu"
  | overline => some "o"
  | blink | blink2 | frame | encircle => none

/-- The attribute of a name, be it the long or the short one. -/
def ofName? (word : String) : Option Attribute :=
  all.find? fun a => a.name == word || a.shortName? == some word

end Attribute

/-- Why a part of a colour is no number. -/
inductive ChannelFault where
  /-- There are no digits. -/
  | noDigits
  /-- There are too many digits. -/
  | tooManyDigits (count : Nat)
  deriving DecidableEq, Repr

/-- The text of a fault in a number. -/
def ChannelFault.message : ChannelFault → String
  | .noDigits => "invalid literal for int() with base 10: ''"
  | .tooManyDigits count =>
    let limit := Numeral.maxDigits
    s!"Exceeds the limit ({limit} digits) for integer string conversion: value has {count} " ++
      "digits; use sys.set_int_max_str_digits() to increase the limit"

/-- Why words are no style. -/
inductive StyleFault where
  /-- The words do not follow the rules. -/
  | unreadable
  /-- A part of a colour is no number. -/
  | channel (fault : ChannelFault)
  deriving DecidableEq, Repr

/-- The greatest value of a part of a colour. -/
def maxChannel : Int := 255

/-- A part of a colour: digits of any script. -/
def readChannel (s : String) : Except ChannelFault Int :=
  if s.isEmpty then .error .noDigits
  else
    match Numeral.int? s with
    | some n => .ok n
    | none => .error (.tooManyDigits s.length)

/-- Several parts of a colour. -/
def readChannels : List String → Except ChannelFault (List Int)
  | [] => .ok []
  | s :: rest =>
    match readChannel s with
    | .ok n => (readChannels rest).map (n :: ·)
    | .error fault => .error fault

/-- The text between an opening word with its bracket and a closing bracket at the end. -/
def bracketed? (word : String) (cs : List Char) : Option (List Char) :=
  if word.toList.isPrefixOf cs && cs.getLast? == some ')' && word.length < cs.length then
    some (cs.drop word.length).dropLast
  else none

/-- A digit of base sixteen in a small letter. -/
def isHexDigit (c : Char) : Bool :=
  ('0' ≤ c && c ≤ '9') || ('a' ≤ c && c ≤ 'f')

/-- A colour by its three parts, between commas. -/
def checkMixed (inside : List Char) : Except StyleFault Unit :=
  let parts := split ',' (String.ofList inside)
  if parts.length ≠ 3 then .error .unreadable
  else
    match readChannels parts with
    | .error fault => .error (.channel fault)
    | .ok ns => if ns.all (· ≤ maxChannel) then .ok () else .error .unreadable

/-- The normal text of a colour: a name, a number of the palette, or a mixture of red, green and
blue. -/
def readColor (word : String) : Except StyleFault String :=
  let color := lower word
  let cs := color.toList
  if color == "default" || isColorName color then .ok color
  else if cs.head? == some '#' && cs.length == 7 && cs.tail.all isHexDigit then .ok color
  else
    match bracketed? "color(" cs, bracketed? "rgb(" cs with
    | some inside, _ =>
      let valid := inside.all isDigit && 1 ≤ inside.length && inside.length ≤ 3 &&
        (digitsValue inside : Int) ≤ maxChannel
      if valid then .ok color else .error .unreadable
    | none, some inside =>
      if inside.isEmpty || !inside.all fun c => c == ',' || (decimalDigit? c).isSome then
        .error .unreadable
      else (checkMixed inside).map fun _ => color
    | none, none => .error .unreadable

/-- A style. -/
structure Style where
  /-- The attributes that are switched, the last switch first. -/
  switches : List (Attribute × Bool) := []
  color : Option String := none
  background : Option String := none
  link : Option String := none
  deriving DecidableEq, Repr

namespace Style

/-- The style with what words add to it. -/
def addWords (style : Style) : List String → Except StyleFault Style
  | [] => .ok style
  | word :: rest =>
    let small := lower word
    if small == "on" then
      match rest with
      | [] => .error .unreadable
      | color :: rest =>
        match readColor color with
        | .ok background => addWords { style with background := some background } rest
        | .error fault => .error fault
    else if small == "not" then
      match rest with
      | [] => .error .unreadable
      | name :: rest =>
        match Attribute.ofName? name with
        | some a => addWords { style with switches := (a, false) :: style.switches } rest
        | none => .error .unreadable
    else if small == "link" then
      match rest with
      | [] => .error .unreadable
      | address :: rest => addWords { style with link := some address } rest
    else
      match Attribute.ofName? small with
      | some a => addWords { style with switches := (a, true) :: style.switches } rest
      | none =>
        match readColor small with
        | .ok color => addWords { style with color := some color } rest
        | .error fault => .error fault

/-- The style that a text describes. -/
def ofString (s : String) : Except StyleFault Style :=
  let ws := words s.toList
  if ws == ["none".toList] then .ok {} else addWords {} (ws.map String.ofList)

/-- The words for a style, attributes first. -/
def toWords (style : Style) : List String :=
  Attribute.all.flatMap (fun a =>
    match style.switches.lookup a with
    | some true => [a.name]
    | some false => ["not", a.name]
    | none => []) ++
  style.color.toList ++
  (match style.background with | some color => ["on", color] | none => []) ++
  (match style.link with | some address => ["link", address] | none => [])

/-- The text of a style. -/
def toString (style : Style) : String :=
  match style.toWords with
  | [] => "none"
  | ws => " ".intercalate ws

/-- One text for all that describes the same style. What describes none is its own text in small
letters. -/
def normalName (s : String) : Except ChannelFault String :=
  match ofString s with
  | .ok style => .ok style.toString
  | .error .unreadable => .ok (lower (String.ofList (trim s.toList)))
  | .error (.channel fault) => .error fault

end Style

end SmellScan.Console
