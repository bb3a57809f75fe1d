import SchoolNotice.Json.Written
import SchoolNotice.Text.Hex

/-!
Reading data text, one character at a time, with a stack of the containers that are still open.
The state says what may come next, so each step is a choice on one character and the reader is a
fold over the text.
-/

namespace SchoolNotice.Json

open SchoolNotice.Number (Numeral)

namespace Reader

/-- The members read so far, the last one first. -/
abbrev Pairs := List (Option String × Written)

/-- A container around the value that is being read, with what it holds so far, last first. -/
inductive Frame where
  | array (done : List Written)
  | member (done : Pairs) (key : Option String)

inductive NumeralPart where
  | minus
  | zero
  | whole
  | point
  | fraction
  | mark
  | sign
  | exponent
deriving DecidableEq

/-- A numeral under way; its digits are in reverse. -/
structure OpenNumeral where
  part : NumeralPart
  negative : Bool
  whole : List Nat
  fraction : List Nat
  exponent : Option (Bool × List Nat)

inductive EscapePart where
  | none
  | backslash
  | hex (count value : Nat)

/-- A string under way: its characters in reverse, whether it holds half of a surrogate pair, and
the first half that waits for its second. -/
structure OpenString where
  chars : List Char
  broken : Bool
  high : Option Nat
  escape : EscapePart

inductive StringUse where
  | value
  | key (done : Pairs)

inductive Mode where
  | value
  | firstItem
  | afterItem (done : List Written)
  | firstKey
  | key (done : Pairs)
  | colon (done : Pairs) (key : Option String)
  | afterMember (done : Pairs)
  | word (rest : List Char) (value : Written)
  | numeral (pending : OpenNumeral)
  | string (use : StringUse) (pending : OpenString)
  | finished (value : Written)

structure State where
  stack : List Frame
  mode : Mode

def start : State := ⟨[], .value⟩

def isSpace (char : Char) : Bool := char == ' ' || char == '\n' || char == '\t' || char == '\r'

def complete (value : Written) : List Frame → State
  | [] => ⟨[], .finished value⟩
  | .array done :: stack => ⟨stack, .afterItem (value :: done)⟩
  | .member done key :: stack => ⟨stack, .afterMember ((key, value) :: done)⟩

def emptyString : OpenString := ⟨[], false, none, .none⟩

def digit? (char : Char) : Option Nat := if char.isDigit then some (char.toNat - 48) else none

def begin (stack : List Frame) (char : Char) : Option State :=
  if char = '"' then some ⟨stack, .string .value emptyString⟩
  else if char = '[' then some ⟨stack, .firstItem⟩
  else if char = '{' then some ⟨stack, .firstKey⟩
  else if char = 't' then some ⟨stack, .word ['r', 'u', 'e'] (.bool true)⟩
  else if char = 'f' then some ⟨stack, .word ['a', 'l', 's', 'e'] (.bool false)⟩
  else if char = 'n' then some ⟨stack, .word ['u', 'l', 'l'] .null⟩
  else if char = '-' then some ⟨stack, .numeral ⟨.minus, true, [], [], none⟩⟩
  else if char = '0' then some ⟨stack, .numeral ⟨.zero, false, [0], [], none⟩⟩
  else (digit? char).map fun digit => ⟨stack, .numeral ⟨.whole, false, [digit], [], none⟩⟩

def stepBetween (state : State) (char : Char) : Option State :=
  if isSpace char then some state
  else
    match state.mode with
    | .value => begin state.stack char
    | .firstItem =>
        if char = ']' then some (complete (.array []) state.stack)
        else begin (.array [] :: state.stack) char
    | .afterItem done =>
        if char = ',' then some ⟨.array done :: state.stack, .value⟩
        else if char = ']' then some (complete (.array done.reverse) state.stack)
        else none
    | .firstKey =>
        if char = '"' then some ⟨state.stack, .string (.key []) emptyString⟩
        else if char = '}' then some (complete (.object []) state.stack)
        else none
    | .key done => if char = '"' then some ⟨state.stack, .string (.key done) emptyString⟩ else none
    | .colon done key =>
        if char = ':' then some ⟨.member done key :: state.stack, .value⟩ else none
    | .afterMember done =>
        if char = ',' then some ⟨state.stack, .key done⟩
        else if char = '}' then some (complete (.object done.reverse) state.stack)
        else none
    | _ => none

namespace OpenNumeral

def extend? (numeral : OpenNumeral) (char : Char) : Option OpenNumeral :=
  match numeral.part, digit? char with
  | .minus, some digit =>
      some { numeral with part := if digit = 0 then .zero else .whole, whole := [digit] }
  | .whole, some digit => some { numeral with whole := digit :: numeral.whole }
  | .point, some digit => some { numeral with part := .fraction, fraction := [digit] }
  | .fraction, some digit => some { numeral with fraction := digit :: numeral.fraction }
  | .mark, some digit => some { numeral with part := .exponent, exponent := some (false, [digit]) }
  | .sign, some digit =>
      some { numeral with
        part := .exponent
        exponent := numeral.exponent.map fun (negative, _) => (negative, [digit]) }
  | .exponent, some digit =>
      some { numeral with
        exponent := numeral.exponent.map fun (negative, digits) => (negative, digit :: digits) }
  | .mark, none =>
      if char = '+' then some { numeral with part := .sign, exponent := some (false, []) }
      else if char = '-' then some { numeral with part := .sign, exponent := some (true, []) }
      else none
  | .zero, none | .whole, none =>
      if char = '.' then some { numeral with part := .point }
      else if char = 'e' ∨ char = 'E' then some { numeral with part := .mark }
      else none
  | .fraction, none =>
      if char = 'e' ∨ char = 'E' then some { numeral with part := .mark } else none
  | _, _ => none

def finish? (numeral : OpenNumeral) : Option Written :=
  if numeral.part ∈ [NumeralPart.zero, .whole, .fraction, .exponent] then
    some (.number (Numeral.value?
      ⟨numeral.negative, numeral.whole.reverse, numeral.fraction.reverse,
        numeral.exponent.map fun (negative, digits) => (negative, digits.reverse)⟩))
  else none

end OpenNumeral

def shortEscape? (char : Char) : Option Char :=
  if char = '"' ∨ char = '\\' ∨ char = '/' then some char
  else if char = 'b' then some '\x08'
  else if char = 'f' then some '\x0c'
  else if char = 'n' then some '\n'
  else if char = 'r' then some '\r'
  else if char = 't' then some '\t'
  else none

namespace OpenString

/-- Adds a character; a first half of a pair that still waits stays alone. -/
def push (pending : OpenString) (char : Char) : OpenString :=
  { chars := char :: pending.chars, broken := pending.broken || pending.high.isSome
    high := none, escape := .none }

def pushUnit (pending : OpenString) (unit : Nat) : OpenString :=
  let low := 0xDC00 ≤ unit ∧ unit < 0xE000
  match pending.high with
  | some high =>
      if low then
        let code := 0x10000 + (high - 0xD800) * 0x400 + (unit - 0xDC00)
        { pending with chars := Char.ofNat code :: pending.chars, high := none, escape := .none }
      else if 0xD800 ≤ unit ∧ unit < 0xDC00 then
        { pending with broken := true, high := some unit, escape := .none }
      else pending.push (Char.ofNat unit)
  | none =>
      if low then { pending with broken := true, escape := .none }
      else if 0xD800 ≤ unit ∧ unit < 0xDC00 then { pending with high := some unit, escape := .none }
      else pending.push (Char.ofNat unit)

def text? (pending : OpenString) : Option String :=
  if pending.broken || pending.high.isSome then none else some (String.ofList pending.chars.reverse)

def extend? (pending : OpenString) (char : Char) : Option OpenString :=
  match pending.escape with
  | .none =>
      if char = '\\' then some { pending with escape := .backslash }
      else if char.toNat < 32 then none
      else some (pending.push char)
  | .backslash =>
      if char = 'u' then some { pending with escape := .hex 0 0 }
      else (shortEscape? char).map pending.push
  | .hex count value =>
      (Text.Hex.value? char).map fun digit =>
        let unit := value * 16 + digit
        if count = 3 then pending.pushUnit unit
        else { pending with escape := .hex (count + 1) unit }

end OpenString

def isPlain : EscapePart → Bool
  | .none => true
  | _ => false

def step (state : State) (char : Char) : Option State :=
  match state.mode with
  | .word [] value => stepBetween (complete value state.stack) char
  | .word [last] value => if char = last then some (complete value state.stack) else none
  | .word (expected :: rest) value =>
      if char = expected then some { state with mode := .word rest value } else none
  | .numeral pending =>
      match pending.extend? char with
      | some longer => some { state with mode := .numeral longer }
      | none => pending.finish?.bind fun value => stepBetween (complete value state.stack) char
  | .string use pending =>
      if char = '"' && isPlain pending.escape then
        match use with
        | .value => some (complete (.string pending.text?) state.stack)
        | .key done => some { state with mode := .colon done pending.text? }
      else (pending.extend? char).map fun longer => { state with mode := .string use longer }
  | .finished _ => if isSpace char then some state else none
  | _ => stepBetween state char

def finish (state : State) : Option Written :=
  match state.stack, state.mode with
  | [], .finished value => some value
  | [], .numeral pending => pending.finish?
  | _, _ => none

end Reader

/-- A text as written, if it is one value with nothing but spaces around it. -/
def Written.read? (text : String) : Option Written :=
  (text.toList.foldlM Reader.step Reader.start).bind Reader.finish

/-- The data of a text; of members with one key the last counts. -/
def read? (text : String) : Option Json :=
  (Written.read? text).bind (Written.toJson? Written.deepest)

end SchoolNotice.Json
