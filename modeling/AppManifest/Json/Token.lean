import AppManifest.Json.Numeral

/-!
# Tokens of JSON text

`Token.scan` cuts a text into brackets, marks and scalars. The scanner is a machine that takes one
character at a time; `Scanner` lists the places at which it can stand between two characters. A text
that breaks the rules inside a token ends with the token `bad`, and what follows is not read.

A string with an escaped half of a surrogate pair that lacks its other half, and a number that is
too large, are tokens without a value: whether they are errors depends on where they stand.
-/

namespace AppManifest

/-- A JSON value without parts. -/
inductive Scalar where
  | null
  | bool (value : Bool)
  /-- A number, unless it is too large. -/
  | number (value : Option Number)
  /-- A string, unless half of a surrogate pair stands alone in it. -/
  | string (value : Option String)
deriving DecidableEq

/-- A piece of JSON text. -/
inductive Token where
  | openArray
  | closeArray
  | openObject
  | closeObject
  | comma
  | colon
  | scalar (value : Scalar)
  /-- A place at which no token can be read. -/
  | bad
deriving DecidableEq

namespace Token

/-- The first half of a surrogate pair. -/
def isHighSurrogate (unit : Nat) : Bool :=
  0xD800 ≤ unit && unit < 0xDC00

/-- The second half of a surrogate pair. -/
def isLowSurrogate (unit : Nat) : Bool :=
  0xDC00 ≤ unit && unit < 0xE000

/-- The characters of a sequence of code points and halves of surrogate pairs, if no half stands
alone. -/
def characters? : List Nat → Option (List Char)
  | [] => some []
  | [unit] =>
      if isHighSurrogate unit || isLowSurrogate unit then none else some [Char.ofNat unit]
  | unit :: next :: rest =>
      if isHighSurrogate unit then
        if isLowSurrogate next then
          (characters? rest).map
            (Char.ofNat (0x10000 + (unit - 0xD800) * 0x400 + (next - 0xDC00)) :: ·)
        else none
      else if isLowSurrogate unit then none
      else (characters? (next :: rest)).map (Char.ofNat unit :: ·)

/-- The string token of a sequence of code points and halves of surrogate pairs. -/
def ofUnits (units : List Nat) : Token :=
  .scalar (.string ((characters? units).map String.ofList))

/-- The value of a decimal digit. -/
def digit? (c : Char) : Option Nat :=
  if '0' ≤ c ∧ c ≤ '9' then some (c.toNat - '0'.toNat) else none

/-- The value of a hexadecimal digit. -/
def hexDigit? (c : Char) : Option Nat :=
  if '0' ≤ c ∧ c ≤ '9' then some (c.toNat - '0'.toNat)
  else if 'a' ≤ c ∧ c ≤ 'f' then some (c.toNat - 'a'.toNat + 10)
  else if 'A' ≤ c ∧ c ≤ 'F' then some (c.toNat - 'A'.toNat + 10)
  else none

/-- The character that a letter after a backslash stands for. -/
def escape? (c : Char) : Option Char :=
  if c = '"' then some '"'
  else if c = '\\' then some '\\'
  else if c = '/' then some '/'
  else if c = 'b' then some '\x08'
  else if c = 'f' then some '\x0c'
  else if c = 'n' then some '\n'
  else if c = 'r' then some '\r'
  else if c = 't' then some '\t'
  else none

end Token

/-- How far a numeral has been read. -/
inductive NumeralPart where
  /-- After the minus sign: a digit must follow. -/
  | minus
  /-- After a leading zero: no further whole digit may follow. -/
  | zero
  /-- Among the whole digits. -/
  | whole
  /-- After the point: a digit must follow. -/
  | point
  /-- Among the digits after the point. -/
  | fraction
  /-- After the letter of the exponent: a sign or a digit must follow. -/
  | mark
  /-- After the sign of the exponent: a digit must follow. -/
  | sign
  /-- Among the digits of the exponent. -/
  | exponent
deriving DecidableEq

/-- Where the scanner stands between two characters. -/
inductive Scanner where
  /-- Between two tokens. -/
  | between
  /-- Inside a word, before the letters that are left of it. -/
  | word (next : Char) (left : List Char) (value : Scalar)
  /-- Inside a number. -/
  | number (part : NumeralPart) (numeral : Numeral)
  /-- Inside a string, after these code points, the latest first. -/
  | string (units : List Nat)
  /-- Inside a string, after a backslash. -/
  | escape (units : List Nat)
  /-- Inside a string, before `left + 1` hexadecimal digits of an escape. -/
  | hex (units : List Nat) (left value : Nat)
  /-- After a place at which no token can be read. -/
  | stopped
deriving DecidableEq

namespace Scanner

/-- The tokens read in a step, and where the scanner stands after it. -/
abbrev Step := List Token × Scanner

/-- Stops at a character that cannot be read. -/
def stop : Step :=
  ([.bad], .stopped)

/-- Reads the first character of a token, or a blank. -/
def start (c : Char) : Step :=
  if c = ' ' ∨ c = '\n' ∨ c = '\t' ∨ c = '\r' then ([], .between)
  else if c = '[' then ([.openArray], .between)
  else if c = ']' then ([.closeArray], .between)
  else if c = '\x7b' then ([.openObject], .between)
  else if c = '\x7d' then ([.closeObject], .between)
  else if c = ',' then ([.comma], .between)
  else if c = ':' then ([.colon], .between)
  else if c = '"' then ([], .string [])
  else if c = 'n' then ([], .word 'u' ['l', 'l'] .null)
  else if c = 't' then ([], .word 'r' ['u', 'e'] (.bool true))
  else if c = 'f' then ([], .word 'a' ['l', 's', 'e'] (.bool false))
  else if c = '-' then ([], .number .minus (.blank true))
  else
    match Token.digit? c with
    | some 0 => ([], .number .zero { Numeral.blank false with whole := [0] })
    | some digit => ([], .number .whole { Numeral.blank false with whole := [digit] })
    | none => stop

/-- Reads a character after a complete numeral that it does not continue. -/
def leave (numeral : Numeral) (c : Char) : Step :=
  let (tokens, after) := start c
  (.scalar (.number numeral.value?) :: tokens, after)

/-- Reads a character after the whole digits of a numeral, when it is not a digit. -/
def afterWhole (numeral : Numeral) (c : Char) : Step :=
  if c = '.' then ([], .number .point { numeral with integral := false })
  else if c = 'e' ∨ c = 'E' then ([], .number .mark { numeral with integral := false })
  else leave numeral c

/-- Reads a character of a numeral or after it. -/
def inNumber (part : NumeralPart) (numeral : Numeral) (c : Char) : Step :=
  match part, Token.digit? c with
  | .minus, some 0 => ([], .number .zero { numeral with whole := [0] })
  | .minus, some digit => ([], .number .whole { numeral with whole := [digit] })
  | .minus, none => stop
  | .zero, some _ => stop
  | .zero, none => afterWhole numeral c
  | .whole, some digit => ([], .number .whole { numeral with whole := digit :: numeral.whole })
  | .whole, none => afterWhole numeral c
  | .point, some digit | .fraction, some digit =>
      ([], .number .fraction { numeral with fraction := digit :: numeral.fraction })
  | .point, none => stop
  | .fraction, none =>
      if c = 'e' ∨ c = 'E' then ([], .number .mark numeral) else leave numeral c
  | .mark, some digit | .sign, some digit | .exponent, some digit =>
      ([], .number .exponent { numeral with power := numeral.power * 10 + digit })
  | .mark, none =>
      if c = '+' then ([], .number .sign numeral)
      else if c = '-' then ([], .number .sign { numeral with lowering := true })
      else stop
  | .sign, none => stop
  | .exponent, none => leave numeral c

/-- Reads one character. -/
def step : Scanner → Char → Step
  | .between, c => start c
  | .word next [] value, c => if c = next then ([.scalar value], .between) else stop
  | .word next (letter :: left) value, c =>
      if c = next then ([], .word letter left value) else stop
  | .number part numeral, c => inNumber part numeral c
  | .string units, c =>
      if c = '"' then ([Token.ofUnits units.reverse], .between)
      else if c = '\\' then ([], .escape units)
      else if c < ' ' then stop
      else ([], .string (c.toNat :: units))
  | .escape units, c =>
      if c = 'u' then ([], .hex units 3 0)
      else
        match Token.escape? c with
        | some character => ([], .string (character.toNat :: units))
        | none => stop
  | .hex units left value, c =>
      match Token.hexDigit? c, left with
      | some digit, left + 1 => ([], .hex units left (value * 16 + digit))
      | some digit, 0 => ([], .string ((value * 16 + digit) :: units))
      | none, _ => stop
  | .stopped, _ => ([], .stopped)

/-- The tokens that are complete when the text ends. -/
def finish : Scanner → List Token
  | .between | .stopped => []
  | .number .zero numeral | .number .whole numeral | .number .fraction numeral
  | .number .exponent numeral => [.scalar (.number numeral.value?)]
  | _ => [.bad]

/-- The tokens of a text that is read from a place on. -/
def run : Scanner → List Char → List Token
  | scanner, [] => scanner.finish
  | scanner, c :: rest =>
      let (tokens, after) := scanner.step c
      tokens ++ run after rest

end Scanner

/-- The tokens of a text. -/
def Token.scan (text : List Char) : List Token :=
  Scanner.between.run text

end AppManifest
