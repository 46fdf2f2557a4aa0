import ClusterTopology.Json.Basic
import ClusterTopology.Text.Integer

/-!
Reading documents from text. What is left of the text is carried along, so that a fault can name
the place where reading stopped. Numbers may also be `NaN`, `Infinity` and `-Infinity`, and an
escaped half of a surrogate pair is kept unless its other half follows at once.
-/

namespace ClusterTopology.Json

inductive Problem where
  | valueExpected
  | nameExpected
  | colonExpected
  | commaExpected
  | unterminatedText
  | controlCharacter
  | invalidEscape
  | invalidUnicodeEscape
  | trailingText
  | byteOrderMark
  deriving DecidableEq

/-- Why reading stopped: a problem, with the text that was left there, an integer with more digits
than are read, or a list or object inside too many others. -/
inductive Stop where
  | problem (kind : Problem) (rest : Text)
  | tooManyDigits (count : Nat)
  | tooDeep
  deriving DecidableEq

abbrev Reading (α : Type) := Except Stop (α × Text)

def isLayout (c : CodePoint) : Bool := c = ' ' || c = '\t' || c = '\n' || c = '\r'

def skipLayout (source : Text) : Text := source.dropWhile isLayout

def hexValue? (c : CodePoint) : Option Nat :=
  if 48 ≤ c.val && c.val ≤ 57 then some (c.val - 48)
  else if 97 ≤ c.val && c.val ≤ 102 then some (c.val - 87)
  else if 65 ≤ c.val && c.val ≤ 70 then some (c.val - 55)
  else none

def codeUnit? (a b c d : CodePoint) : Option Nat := do
  return 4096 * (← hexValue? a) + 256 * (← hexValue? b) + 16 * (← hexValue? c) + (← hexValue? d)

def isHighSurrogate (unit : Nat) : Bool := 0xd800 ≤ unit && unit ≤ 0xdbff

def isLowSurrogate (unit : Nat) : Bool := 0xdc00 ≤ unit && unit ≤ 0xdfff

def joinSurrogates (high low : Nat) : Nat :=
  0x10000 + (high - 0xd800) * 0x400 + (low - 0xdc00)

def simpleEscape? (c : CodePoint) : Option CodePoint :=
  if c = '"' || c = '\\' || c = '/' then some c
  else if c = 'b' then some 8
  else if c = 'f' then some 12
  else if c = 'n' then some 10
  else if c = 'r' then some 13
  else if c = 't' then some 9
  else none

def Reading.cons (c : CodePoint) : Reading Text → Reading Text
  | .ok (content, rest) => .ok (c :: content, rest)
  | .error stop => .error stop

def Reading.consHigh (high : Option Nat) (reading : Reading Text) : Reading Text :=
  match high with
  | some unit => reading.cons (Fin.ofNat _ unit)
  | none => reading

/-- The rest of a quoted text and what follows its closing quote. `opening` is the source from the
opening quote on, and `high` the first half of a surrogate pair if one was read just before.
Something has to follow the digits of an escape. -/
def readText (opening : Text) : (high : Option Nat) → Text → Reading Text
  | _, [] => .error (.problem .unterminatedText opening)
  | high, c :: rest =>
    if c = '"' then Reading.consHigh high (.ok ([], rest))
    else if c.val < 0x20 then .error (.problem .controlCharacter (c :: rest))
    else if c ≠ '\\' then ((readText opening none rest).cons c).consHigh high
    else match rest with
      | [] => .error (.problem .unterminatedText opening)
      | e :: after =>
        if e ≠ 'u' then
          match simpleEscape? e with
          | some meant => ((readText opening none after).cons meant).consHigh high
          | none => .error (.problem .invalidEscape (c :: e :: after))
        else match after with
          | a₁ :: a₂ :: a₃ :: a₄ :: more =>
            match codeUnit? a₁ a₂ a₃ a₄ with
            | none => .error (.problem .invalidUnicodeEscape (e :: a₁ :: a₂ :: a₃ :: a₄ :: more))
            | some unit =>
              if more.isEmpty then
                .error (.problem .invalidUnicodeEscape (e :: a₁ :: a₂ :: a₃ :: a₄ :: more))
              else if isHighSurrogate unit then (readText opening (some unit) more).consHigh high
              else match high, isLowSurrogate unit with
                | some first, true =>
                  (readText opening none more).cons (Fin.ofNat _ (joinSurrogates first unit))
                | _, _ => ((readText opening none more).cons (Fin.ofNat _ unit)).consHigh high
          | short => .error (.problem .invalidUnicodeEscape (e :: short))

def isDigit (c : CodePoint) : Bool := 48 ≤ c.val && c.val ≤ 57

def digitsValue (digits : Text) : Nat := Text.valueOfDigits (digits.map fun c => c.val - 48)

def takeFraction (source : Text) : Option (Text × Text) :=
  match source with
  | point :: rest =>
    let digits := rest.takeWhile isDigit
    if point = '.' && digits ≠ [] then some (digits, rest.dropWhile isDigit) else none
  | [] => none

def takeExponent (source : Text) : Option (Int × Text) :=
  match source with
  | mark :: rest =>
    let (negative, unsigned) := Text.takeSign rest
    let digits := unsigned.takeWhile isDigit
    if (mark = 'e' || mark = 'E') && digits ≠ [] then
      let value : Int := digitsValue digits
      some (if negative then -value else value, unsigned.dropWhile isDigit)
    else none
  | [] => none

def takeWhole (source : Text) : Option (Text × Text) :=
  match source with
  | c :: rest =>
    if c = '0' then some ([c], rest)
    else if isDigit c then some (source.takeWhile isDigit, source.dropWhile isDigit)
    else none
  | [] => none

def numberOf (negative : Bool) (whole fraction : Text) (exponent : Int) : Json :=
  let digits := whole ++ fraction
  .float
    (Binary64.ofDecimal negative (digitsValue digits) digits.length (exponent - fraction.length))

/-- A number is an integer unless it has a fraction or an exponent. Whether the digits of an integer
are limited is up to the system on which it is read. -/
def readNumber (limited : Bool) (source : Text) : Reading Json :=
  let (negative, unsigned) : Bool × Text :=
    match source with
    | c :: rest => if c = '-' then (true, rest) else (false, source)
    | [] => (false, [])
  match takeWhole unsigned with
  | none => .error (.problem .valueExpected source)
  | some (whole, after) =>
    match takeFraction after with
    | some (fraction, behind) =>
      match takeExponent behind with
      | some (exponent, rest) => .ok (numberOf negative whole fraction exponent, rest)
      | none => .ok (numberOf negative whole fraction 0, behind)
    | none =>
      match takeExponent after with
      | some (exponent, rest) => .ok (numberOf negative whole [] exponent, rest)
      | none =>
        if limited && Text.digitLimit < whole.length then .error (.tooManyDigits whole.length)
        else
          let value : Int := digitsValue whole
          .ok (.int (if negative then -value else value), after)

def words : List (Text × Json) := [
  ("null", .null),
  ("true", .bool true),
  ("false", .bool false),
  ("NaN", .float .nan),
  ("Infinity", .float (.infinity false)),
  ("-Infinity", .float (.infinity true))]

def readWord? (source : Text) : Option (Json × Text) :=
  words.findSome? fun (word, value) =>
    if word.isPrefixOf source then some (value, source.drop word.length) else none

mutual
/-- The value at the front of a text. The fuel bounds the steps; twice the length of the text and
two more are enough. `room` is how deep lists and objects may still lie in each other; that there is
none is noticed at their opening brackets. -/
def readValue (limited : Bool) : (fuel room : Nat) → Text → Reading Json
  | 0, _, source => .error (.problem .valueExpected source)
  | fuel + 1, room, source =>
    match source with
    | [] => .error (.problem .valueExpected [])
    | c :: rest =>
      if c = '"' then
        match readText (c :: rest) none rest with
        | .error stop => .error stop
        | .ok (value, after) => .ok (.text value, after)
      else if c = '[' then
        match room, skipLayout rest with
        | 0, _ => .error .tooDeep
        | _, [] => .error (.problem .valueExpected [])
        | room + 1, d :: inner =>
          if d = ']' then .ok (.list [], inner)
          else match readItems limited fuel room (d :: inner) with
            | .error stop => .error stop
            | .ok (items, after) => .ok (.list items, after)
      else if c = '{' then
        match room, skipLayout rest with
        | 0, _ => .error .tooDeep
        | _, [] => .error (.problem .nameExpected [])
        | room + 1, d :: inner =>
          if d = '}' then .ok (.object [], inner)
          else match readMembers limited fuel room (d :: inner) with
            | .error stop => .error stop
            | .ok (members, after) => .ok (ofMembers members, after)
      else match readWord? (c :: rest) with
        | some found => .ok found
        | none => readNumber limited (c :: rest)

def readItems (limited : Bool) : (fuel room : Nat) → Text → Reading (List Json)
  | 0, _, source => .error (.problem .valueExpected source)
  | fuel + 1, room, source =>
    match readValue limited fuel room source with
    | .error stop => .error stop
    | .ok (item, after) =>
      match skipLayout after with
      | [] => .error (.problem .commaExpected [])
      | c :: rest =>
        if c = ']' then .ok ([item], rest)
        else if c = ',' then
          match readItems limited fuel room (skipLayout rest) with
          | .error stop => .error stop
          | .ok (items, behind) => .ok (item :: items, behind)
        else .error (.problem .commaExpected (c :: rest))

def readMembers (limited : Bool) : (fuel room : Nat) → Text → Reading (List (Text × Json))
  | 0, _, source => .error (.problem .nameExpected source)
  | fuel + 1, room, source =>
    match source with
    | [] => .error (.problem .nameExpected [])
    | q :: inner =>
      if q ≠ '"' then .error (.problem .nameExpected (q :: inner))
      else match readText (q :: inner) none inner with
        | .error stop => .error stop
        | .ok (name, afterName) =>
          match skipLayout afterName with
          | [] => .error (.problem .colonExpected [])
          | colon :: beforeValue =>
            if colon ≠ ':' then .error (.problem .colonExpected (colon :: beforeValue))
            else match readValue limited fuel room (skipLayout beforeValue) with
              | .error stop => .error stop
              | .ok (value, after) =>
                match skipLayout after with
                | [] => .error (.problem .commaExpected [])
                | c :: rest =>
                  if c = '}' then .ok ([(name, value)], rest)
                  else if c = ',' then
                    match readMembers limited fuel room (skipLayout rest) with
                    | .error stop => .error stop
                    | .ok (members, behind) => .ok ((name, value) :: members, behind)
                  else .error (.problem .commaExpected (c :: rest))
end

structure Place where
  line : Nat
  column : Nat
  offset : Nat
  deriving DecidableEq

def Place.at (source : Text) (offset : Nat) : Place :=
  let before := source.take offset
  let lastLine := before.reverse.takeWhile fun c : CodePoint => c ≠ '\n'
  ⟨before.countP (fun c : CodePoint => c = '\n') + 1, lastLine.length + 1, offset⟩

inductive ReadFault where
  | malformed (problem : Problem) (place : Place)
  | tooManyDigits (count : Nat)
  | tooDeep
  deriving DecidableEq

def Stop.fault (source : Text) : Stop → ReadFault
  | .problem kind rest => .malformed kind (Place.at source (source.length - rest.length))
  | .tooManyDigits count => .tooManyDigits count
  | .tooDeep => .tooDeep

/-- The document that a text holds, with layout around it. A reader has room for so many lists and
objects inside each other, which hangs on how deep it was called itself. -/
def read (room : Nat) (source : Text) (limited : Bool := true) : Except ReadFault Json :=
  let result : Except Stop Json :=
    if source.head? = some 0xfeff then .error (.problem .byteOrderMark source)
    else match readValue limited (2 * source.length + 2) room (skipLayout source) with
      | .error stop => .error stop
      | .ok (value, after) =>
        match skipLayout after with
        | [] => .ok value
        | rest => .error (.problem .trailingText rest)
  result.mapError (Stop.fault source)

def Problem.message : Problem → Text
  | .valueExpected => "Expecting value"
  | .nameExpected => "Expecting property name enclosed in double quotes"
  | .colonExpected => "Expecting ':' delimiter"
  | .commaExpected => "Expecting ',' delimiter"
  | .unterminatedText => "Unterminated string starting at"
  | .controlCharacter => "Invalid control character at"
  | .invalidEscape => "Invalid \\escape"
  | .invalidUnicodeEscape => "Invalid \\uXXXX escape"
  | .trailingText => "Extra data"
  | .byteOrderMark => "Unexpected UTF-8 BOM (decode using utf-8-sig)"

def Place.message (p : Place) : Text :=
  "line " ++ Text.ofNat p.line ++ " column " ++ Text.ofNat p.column
    ++ " (char " ++ Text.ofNat p.offset ++ ")"

end ClusterTopology.Json
