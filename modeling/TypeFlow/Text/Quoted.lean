import TypeFlow.Text.Unprintable

/-!
# Quoted texts

A quoted text stands between single quotes, or between double quotes when it
holds a single quote and no double quote.  Inside, the backslash, the chosen
quote and the characters without a printed form are escaped.
-/

namespace TypeFlow.Text

def backslash : Char := '\x5c'

def singleQuote : Char := '\x27'

def doubleQuote : Char := '\x22'

def hexDigit (value : Nat) : Char :=
  if value < 10 then Char.ofNat ('0'.toNat + value)
  else Char.ofNat ('a'.toNat + (value - 10))

/-- The last `width` lower-case hexadecimal digits of a number. -/
def hexDigits : (width : Nat) → (value : Nat) → List Char
  | 0, _ => []
  | width + 1, value => hexDigits width (value / 16) ++ [hexDigit (value % 16)]

/-- The escape of a character by its code point, as short as it can be. -/
def escapeCode (code : Nat) : List Char :=
  if code < 0x100 then backslash :: 'x' :: hexDigits 2 code
  else if code < 0x10000 then backslash :: 'u' :: hexDigits 4 code
  else backslash :: 'U' :: hexDigits 8 code

def escapeChar (quote character : Char) : List Char :=
  if character = quote || character = backslash then [backslash, character]
  else if character = '\n' then [backslash, 'n']
  else if character = '\r' then [backslash, 'r']
  else if character = '\t' then [backslash, 't']
  else if isPrintable character then [character]
  else escapeCode character.toNat

/-- Double quotes are chosen only to leave a single quote unescaped. -/
def quoteFor (characters : List Char) : Char :=
  if characters.contains singleQuote && !characters.contains doubleQuote
    then doubleQuote
  else singleQuote

def quoted (text : String) : String :=
  let quote := quoteFor text.toList
  String.ofList (quote :: text.toList.flatMap (escapeChar quote) ++ [quote])

/-- Texts separated by a comma and a blank, between square brackets. -/
def bracketed (items : List String) : String :=
  "[" ++ String.intercalate ", " items ++ "]"

/-- A list of texts, each quoted. -/
def quotedList (texts : List String) : String :=
  bracketed (texts.map quoted)

end TypeFlow.Text
