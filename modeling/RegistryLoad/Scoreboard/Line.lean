import RegistryLoad.Decimal.Shortest
import RegistryLoad.Json.Number
import RegistryLoad.Json.Quoted
import RegistryLoad.Scoreboard.Snapshot

/-!
# The score board as a line of JSON

* `Snapshot.line`: the ten members of a snapshot in a fixed order, without blanks.
* `Snapshot.ofLine`: reads an object with these members in any order, or a list of ten values
  in the fixed one.
-/

namespace RegistryLoad

open RegistryLoad.Text

/-- The members of a snapshot. -/
inductive Member where
  | timestamp
  | elapsed
  | registrations
  | unregistrations
  | interests
  | activeInterests
  | registrySize
  | registrationRate
  | unregistrationRate
  | interestRate
  deriving DecidableEq, Repr

namespace Member

/-- The members in the order in which they are written. -/
def all : List Member :=
  [timestamp, elapsed, registrations, unregistrations, interests, activeInterests, registrySize,
   registrationRate, unregistrationRate, interestRate]

/-- The key of a member. -/
def key : Member → String
  | timestamp => "timestamp"
  | elapsed => "elapsed_secs"
  | registrations => "processed_registrations"
  | unregistrations => "processed_unregistrations"
  | interests => "processed_interests"
  | activeInterests => "active_interests"
  | registrySize => "registry_size"
  | registrationRate => "registrations_per_sec"
  | unregistrationRate => "unregistrations_per_sec"
  | interestRate => "interests_per_sec"

/-- The member with the given key. -/
def ofKey? (key : List Char) : Option Member :=
  all.find? fun m => m.key.toList == key

end Member

namespace Snapshot

open RegistryLoad.Json

/-! ## Writing -/

/-- Numbers from one hundred-thousandth up to ten to the sixteenth are written without an
exponent. -/
def numberLayout : Binary64.Layout := ⟨-5, 16⟩

/-- A double precision number, or `null` where there are no digits. -/
def numberText (x : Binary64) : List Char :=
  if x.isFinite then numberLayout.renderFinite x else "null".toList

/-- The written value of a member. -/
def memberText (s : Snapshot) : Member → List Char
  | .timestamp => quoted s.timestamp.toList
  | .elapsed => numberText s.elapsed
  | .registrations => decimal s.counters.registrations.toNat
  | .unregistrations => decimal s.counters.unregistrations.toNat
  | .interests => decimal s.counters.interests.toNat
  | .activeInterests => decimal s.counters.activeInterests.toNat
  | .registrySize => decimal s.counters.registrySize.toNat
  | .registrationRate => numberText s.registrationRate
  | .unregistrationRate => numberText s.unregistrationRate
  | .interestRate => numberText s.interestRate

/-- The snapshot as a JSON object on one line, without a line break. -/
def line (s : Snapshot) : List Char :=
  '\x7b' :: [','].intercalate
    (Member.all.map fun m => quoted m.key.toList ++ ':' :: s.memberText m) ++ ['\x7d']

/-! ## Reading -/

/-- Looks at a value that has the wrong shape: it must still be JSON as far as a string, a
number or a literal goes; of a bracket only the first character is looked at. -/
def wrongShape (text : List Char) : ReadError :=
  match skipSpace text with
  | [] => .truncated
  | '[' :: _ => .mismatch
  | '\x7b' :: _ => .mismatch
  | '"' :: rest => verdict (string rest)
  | 'n' :: rest => verdict (literal "ull".toList rest)
  | 't' :: rest => verdict (literal "rue".toList rest)
  | 'f' :: rest => verdict (literal "alse".toList rest)
  | '-' :: rest => verdict (number true rest)
  | c :: rest => if (digit? c).isSome then verdict (number false (c :: rest)) else .malformed
where
  /-- A value that can be read is only of the wrong shape. -/
  verdict {α : Type} : Except ReadError α → ReadError
    | .error e => e
    | .ok _ => .mismatch

/-- A string. -/
def readText : Reader String := fun text =>
  match skipSpace text with
  | '"' :: rest => (string rest).map fun (s, rest) => (String.ofList s, rest)
  | rest => .error (wrongShape rest)

/-- A number of any form. -/
def readNumber : Reader Number := fun text =>
  match skipSpace text with
  | '-' :: rest => number true rest
  | c :: rest =>
    if (digit? c).isSome then number false (c :: rest) else .error (wrongShape (c :: rest))
  | [] => .error .truncated

/-- A count: a natural number of 64 bits. -/
def readCount : Reader UInt64 := fun text => do
  match ← readNumber text with
  | (.natural n, rest) => return (n, rest)
  | (.real _, _) => throw .mismatch

/-- A double precision number. -/
def readReal : Reader Binary64 := fun text =>
  (readNumber text).map fun (n, rest) => (n.toReal, rest)

/-- The members that were read so far. -/
structure Draft where
  timestamp : Option String := none
  elapsed : Option Binary64 := none
  registrations : Option UInt64 := none
  unregistrations : Option UInt64 := none
  interests : Option UInt64 := none
  activeInterests : Option UInt64 := none
  registrySize : Option UInt64 := none
  registrationRate : Option Binary64 := none
  unregistrationRate : Option Binary64 := none
  interestRate : Option Binary64 := none

namespace Draft

/-- Whether a member was read already. -/
def has (d : Draft) : Member → Bool
  | .timestamp => d.timestamp.isSome
  | .elapsed => d.elapsed.isSome
  | .registrations => d.registrations.isSome
  | .unregistrations => d.unregistrations.isSome
  | .interests => d.interests.isSome
  | .activeInterests => d.activeInterests.isSome
  | .registrySize => d.registrySize.isSome
  | .registrationRate => d.registrationRate.isSome
  | .unregistrationRate => d.unregistrationRate.isSome
  | .interestRate => d.interestRate.isSome

/-- Reads the value of a member. -/
def readMember (d : Draft) (m : Member) : Reader Draft := fun text => do
  match m with
  | .timestamp => let (v, r) ← readText text; return ({ d with timestamp := some v }, r)
  | .elapsed => let (v, r) ← readReal text; return ({ d with elapsed := some v }, r)
  | .registrations => let (v, r) ← readCount text; return ({ d with registrations := some v }, r)
  | .unregistrations =>
    let (v, r) ← readCount text; return ({ d with unregistrations := some v }, r)
  | .interests => let (v, r) ← readCount text; return ({ d with interests := some v }, r)
  | .activeInterests =>
    let (v, r) ← readCount text; return ({ d with activeInterests := some v }, r)
  | .registrySize => let (v, r) ← readCount text; return ({ d with registrySize := some v }, r)
  | .registrationRate =>
    let (v, r) ← readReal text; return ({ d with registrationRate := some v }, r)
  | .unregistrationRate =>
    let (v, r) ← readReal text; return ({ d with unregistrationRate := some v }, r)
  | .interestRate => let (v, r) ← readReal text; return ({ d with interestRate := some v }, r)

/-- The snapshot, once every member was read. -/
def complete? (d : Draft) : Option Snapshot := do
  return {
    timestamp := ← d.timestamp
    elapsed := ← d.elapsed
    counters := {
      registrations := ← d.registrations
      unregistrations := ← d.unregistrations
      interests := ← d.interests
      activeInterests := ← d.activeInterests
      registrySize := ← d.registrySize }
    registrationRate := ← d.registrationRate
    unregistrationRate := ← d.unregistrationRate
    interestRate := ← d.interestRate }

/-- The snapshot, or the complaint that a member is missing. -/
def finish (d : Draft) : Except ReadError Snapshot :=
  match d.complete? with
  | some s => .ok s
  | none => .error .mismatch

end Draft

/-- Reads a key and its value.  A key that was read before is refused at once, and the value of
an unknown key is passed over. -/
def readEntry (d : Draft) : Reader Draft := fun text => do
  let (key, rest) ← string (← punctuation '"' text)
  match Member.ofKey? key with
  | some m =>
    if d.has m then throw .mismatch
    else d.readMember m (← punctuation ':' rest)
  | none => return (d, ← skipValue (← punctuation ':' rest))

/-- Reads entries up to the closing brace; `first` before the first one.  An entry takes more
than one character, which bounds `fuel`. -/
def readEntries : Nat → Bool → Draft → Reader Snapshot
  | 0, _, _, _ => .error .truncated
  | fuel + 1, first, d, text =>
    match skipSpace text with
    | [] => .error .truncated
    | '\x7d' :: rest => d.finish.map (·, rest)
    | c :: rest =>
      if first then do
        let (d, rest) ← readEntry d (c :: rest)
        readEntries fuel false d rest
      else if c = ',' then do
        let (d, rest) ← readEntry d rest
        readEntries fuel false d rest
      else .error .malformed

/-- What stands in a list before the value of a member: nothing before the first, a comma
before the others.  A list that ends here lacks a value. -/
def nextItem (first : Bool) (text : List Char) : Except ReadError (List Char) :=
  match skipSpace text with
  | [] => .error .truncated
  | ']' :: _ => .error .mismatch
  | c :: rest =>
    if first then .ok (c :: rest)
    else if c = ',' then
      match skipSpace rest with
      | [] => .error .truncated
      | ']' :: _ => .error .malformed
      | rest => .ok rest
    else .error .malformed

/-- Reads the values of the given members from a list. -/
def readItems : List Member → Bool → Draft → Reader Draft
  | [], _, d, text => .ok (d, text)
  | m :: ms, first, d, text => do
    let (d, rest) ← d.readMember m (← nextItem first text)
    readItems ms false d rest

/-- Reads a snapshot at the start of a text. -/
def read : Reader Snapshot := fun text =>
  match skipSpace text with
  | '[' :: rest => do
    let (d, rest) ← readItems Member.all true {} rest
    let s ← d.finish
    return (s, ← punctuation ']' rest)
  | '\x7b' :: rest => readEntries (rest.length + 1) true {} rest
  | rest => .error (wrongShape rest)

/-- Reads a snapshot that is the whole text, blanks around it apart. -/
def ofLine (text : List Char) : Except ReadError Snapshot := do
  let (s, rest) ← read text
  match skipSpace rest with
  | [] => return s
  | _ => throw .malformed

end Snapshot

end RegistryLoad
