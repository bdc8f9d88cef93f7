import RegistryLoad.Text.Numeral

/-!
# Reading JSON from left to right

The pieces that every JSON reader needs: blanks, strings, literals, and skipping a value whose
content does not matter.  A reader takes the text that is left and gives back what it read with
the rest, or the first problem it meets.
-/

namespace RegistryLoad.Json

open RegistryLoad.Text

/-- The kinds of problem that a text can have. -/
inductive ReadError where
  /-- The text ends where more must follow. -/
  | truncated
  /-- The text is no JSON. -/
  | malformed
  /-- The text is JSON of another shape than the expected one. -/
  | mismatch
  deriving DecidableEq, Repr

/-- A reader of a value at the start of a text. -/
abbrev Reader (α : Type) := List Char → Except ReadError (α × List Char)

/-- The blanks between the tokens of JSON. -/
def isSpace (c : Char) : Bool := c == ' ' || c == '\n' || c == '\t' || c == '\r'

def skipSpace (text : List Char) : List Char := text.dropWhile isSpace

/-- The given characters, which must come next. -/
def literal : List Char → List Char → Except ReadError (List Char)
  | [], rest => .ok rest
  | _ :: _, [] => .error .truncated
  | e :: es, c :: rest => if c = e then literal es rest else .error .malformed

/-- The given punctuation after blanks. -/
def punctuation (mark : Char) (text : List Char) : Except ReadError (List Char) :=
  match skipSpace text with
  | [] => .error .truncated
  | c :: rest => if c = mark then .ok rest else .error .malformed

/-! ## Strings -/

/-- The value of a hexadecimal digit of either case. -/
def hexValue? (c : Char) : Option Nat :=
  if '0' ≤ c ∧ c ≤ '9' then some (c.toNat - '0'.toNat)
  else if 'a' ≤ c ∧ c ≤ 'f' then some (c.toNat - 'a'.toNat + 10)
  else if 'A' ≤ c ∧ c ≤ 'F' then some (c.toNat - 'A'.toNat + 10)
  else none

/-- The number of bytes of a text in UTF-8. -/
def byteLength (text : List Char) : Nat := text.foldl (fun n c => n + c.utf8Size) 0

/-- The value of four hexadecimal digits, if the characters are that. -/
def hexValue4? (a b c d : Char) : Option Nat := do
  return (((← hexValue? a) * 16 + (← hexValue? b)) * 16 + (← hexValue? c)) * 16 + (← hexValue? d)

/-- A code of four hexadecimal digits.  The text is too short if it has fewer than four bytes. -/
def hexCode (text : List Char) : Except ReadError (Nat × List Char) :=
  if byteLength (text.take 4) < 4 then .error .truncated
  else match text with
    | a :: b :: c :: d :: rest =>
      match hexValue4? a b c d with
      | some n => .ok (n, rest)
      | none => .error .malformed
    | _ => .error .malformed

/-- The first and the second half of a character outside the basic plane. -/
def isHighHalf (n : Nat) : Bool := 0xD800 ≤ n && n ≤ 0xDBFF
def isLowHalf (n : Nat) : Bool := 0xDC00 ≤ n && n ≤ 0xDFFF

/-- The character of two halves. -/
def joinHalves (high low : Nat) : Char :=
  Char.ofNat (0x10000 + (high - 0xD800) * 0x400 + (low - 0xDC00))

/-- The next character, which must be the given one. -/
def expectChar (mark : Char) : List Char → Except ReadError (List Char)
  | [] => .error .truncated
  | c :: rest => if c = mark then .ok rest else .error .malformed

/-- The character of a `\u` escape after its `u`.  A first half needs a second one behind it,
and a second half cannot stand alone. -/
def codeEscape (text : List Char) : Except ReadError (Char × List Char) := do
  let (n, rest) ← hexCode text
  if isLowHalf n then throw .malformed
  else if isHighHalf n then
    let (m, rest) ← hexCode (← expectChar 'u' (← expectChar '\\' rest))
    if isLowHalf m then return (joinHalves n m, rest) else throw .malformed
  else return (Char.ofNat n, rest)

/-- The character of an escape with one letter. -/
def letterEscape? : Char → Option Char
  | '"' => some '"'
  | '\\' => some '\\'
  | '/' => some '/'
  | 'b' => some '\x08'
  | 'f' => some '\x0c'
  | 'n' => some '\n'
  | 'r' => some '\r'
  | 't' => some '\t'
  | _ => none

/-- The character that a backslash introduces. -/
def escape : Reader Char
  | [] => .error .truncated
  | 'u' :: rest => codeEscape rest
  | c :: rest => match letterEscape? c with
    | some e => .ok (e, rest)
    | none => .error .malformed

/-- The same escape when its character does not matter: a lone half passes. -/
def skipEscape : List Char → Except ReadError (List Char)
  | [] => .error .truncated
  | 'u' :: rest => (hexCode rest).map (·.2)
  | c :: rest => if (letterEscape? c).isSome then .ok rest else .error .malformed

/-- The characters up to the closing quote.  Each step takes at least one character, so `fuel`
need not exceed the length of the text. -/
def stringBody : Nat → Reader (List Char)
  | 0, _ => .error .truncated
  | _ + 1, [] => .error .truncated
  | fuel + 1, c :: rest =>
    if c = '"' then .ok ([], rest)
    else if c = '\\' then
      match escape rest with
      | .error e => .error e
      | .ok (d, rest) => (stringBody fuel rest).map fun (s, rest) => (d :: s, rest)
    else if c.toNat < 0x20 then .error .malformed
    else (stringBody fuel rest).map fun (s, rest) => (c :: s, rest)

/-- A string after its opening quote. -/
def string (text : List Char) : Except ReadError (List Char × List Char) :=
  stringBody text.length text

/-- Passes a string after its opening quote. -/
def skipStringBody : Nat → List Char → Except ReadError (List Char)
  | 0, _ => .error .truncated
  | _ + 1, [] => .error .truncated
  | fuel + 1, c :: rest =>
    if c = '"' then .ok rest
    else if c = '\\' then
      match skipEscape rest with
      | .error e => .error e
      | .ok rest => skipStringBody fuel rest
    else if c.toNat < 0x20 then .error .malformed
    else skipStringBody fuel rest

def skipString (text : List Char) : Except ReadError (List Char) :=
  skipStringBody text.length text

/-! ## Passing over a value -/

/-- The digits at the start of a text and what follows them. -/
def spanDigits (text : List Char) : List Char × List Char :=
  (text.takeWhile fun c => (digit? c).isSome, text.dropWhile fun c => (digit? c).isSome)

/-- Passes at least one digit. -/
def skipDigits (text : List Char) : Except ReadError (List Char) :=
  match spanDigits text with
  | ([], _) => .error .malformed
  | (_, rest) => .ok rest

/-- Passes an exponent, if there is one.  A number that ends too early is malformed here, even
at the end of the text. -/
def skipExponent (text : List Char) : Except ReadError (List Char) :=
  match text with
  | c :: rest =>
    if c = 'e' || c = 'E' then
      match rest with
      | s :: digits => if s = '+' || s = '-' then skipDigits digits else skipDigits rest
      | [] => skipDigits rest
    else .ok text
  | [] => .ok text

/-- Passes a fraction and an exponent, each if there is one. -/
def skipFraction : List Char → Except ReadError (List Char)
  | '.' :: rest => do skipExponent (← skipDigits rest)
  | rest => skipExponent rest

/-- Passes a number after its sign.  Nothing follows a leading zero but a fraction or an
exponent. -/
def skipNumber (text : List Char) : Except ReadError (List Char) :=
  match spanDigits text with
  | ([], _) => .error .malformed
  | ('0' :: _ :: _, _) => .error .malformed
  | (_, rest) => skipFraction rest

/-- What encloses the value at hand. -/
inductive Bracket where
  | list
  | object
  deriving DecidableEq, Repr

/-- The mark that closes a bracket. -/
def Bracket.closing : Bracket → Char
  | list => ']'
  | object => '}'

/-- Where the passing stands: before a value, behind an opening bracket, behind a value. -/
inductive Place where
  | value
  | opened
  | after
  deriving DecidableEq, Repr

/-- Passes the key of a member and the colon behind it. -/
def skipKey (text : List Char) : Except ReadError (List Char) := do
  punctuation ':' (← skipString (← punctuation '"' text))

/-- What comes before the next value inside a bracket. -/
def nextEntry (bracket : Bracket) (text : List Char) : Except ReadError (List Char) :=
  match bracket with
  | .list => .ok text
  | .object => skipKey text

/-- Passes a value that is no bracket, and tells the bracket that it opens otherwise. -/
def skipScalar (text : List Char) : Except ReadError (Option Bracket × List Char) :=
  match skipSpace text with
  | [] => .error .truncated
  | '[' :: rest => .ok (some .list, rest)
  | '{' :: rest => .ok (some .object, rest)
  | '"' :: rest => (skipString rest).map (none, ·)
  | 'n' :: rest => (literal "ull".toList rest).map (none, ·)
  | 't' :: rest => (literal "rue".toList rest).map (none, ·)
  | 'f' :: rest => (literal "alse".toList rest).map (none, ·)
  | '-' :: rest => (skipNumber rest).map (none, ·)
  | c :: rest =>
    if (digit? c).isSome then (skipNumber (c :: rest)).map (none, ·) else .error .malformed

/-- Passes the rest of a value inside the given brackets, innermost first.  Two steps never
leave the text as long as it was, which bounds `fuel`. -/
def skipOpen : Nat → List Bracket → Place → List Char → Except ReadError (List Char)
  | 0, _, _, _ => .error .truncated
  | fuel + 1, pending, .value, text => do
    match ← skipScalar text with
    | (none, rest) => skipOpen fuel pending .after rest
    | (some bracket, rest) => skipOpen fuel (bracket :: pending) .opened rest
  | _ + 1, [], _, text => .ok text
  | fuel + 1, bracket :: outer, .opened, text =>
    match skipSpace text with
    | [] => .error .truncated
    | c :: rest =>
      if c = bracket.closing then skipOpen fuel outer .after rest
      else do skipOpen fuel (bracket :: outer) .value (← nextEntry bracket (c :: rest))
  | fuel + 1, bracket :: outer, .after, text =>
    match skipSpace text with
    | [] => .error .truncated
    | c :: rest =>
      if c = bracket.closing then skipOpen fuel outer .after rest
      else if c = ',' then do
        skipOpen fuel (bracket :: outer) .value (← nextEntry bracket rest)
      else .error .malformed

/-- Passes one value of any shape and depth. -/
def skipValue (text : List Char) : Except ReadError (List Char) :=
  skipOpen (2 * text.length + 2) [] .value text

end RegistryLoad.Json
