import AccessAudit.Dictionary
import AccessAudit.Json.NumberReader

/-!
# Reading JSON

The reader works on the stream of characters and stops at the first fault. It is built from
combinators for items and members, so that a document can be judged while it is being read: a
`Fault` is either that the text is no JSON, or a cause found in the part that was read.

Loops have a budget of steps. Each step reads a character or more, so the length of the text is
enough and no text exhausts it. A value that is only skipped is read without checking the range
of its numbers and the pairing of its surrogates.
-/

namespace AccessAudit
namespace Json

/-- Why reading stopped. -/
inductive Fault (Cause : Type) where
  /-- The text is not well-formed. -/
  | malformed
  /-- The text was well-formed so far, but its content is refused. -/
  | rejected (cause : Cause)

/-- A reader takes a value from the start of a text and leaves the rest, or stops at a fault. -/
abbrev Reader (Cause : Type) := StateT (List Char) (Except (Fault Cause))

/-- What becomes of a value. -/
inductive Use where
  | keep
  | skip
deriving DecidableEq

/-- The blanks between tokens. -/
def isSpace (c : Char) : Bool :=
  c == ' ' || c == '\t' || c == '\n' || c == '\r'

/-- The text from its first token on. -/
def skipSpace (chars : List Char) : List Char :=
  chars.dropWhile isSpace

/-- The 16-bit unit of four hexadecimal digits. -/
def unit? (first second third fourth : Char) : Option Nat := do
  let digits ← [first, second, third, fourth].mapM (Numeral.digit? 16)
  return digits.foldl (fun value digit => 16 * value + digit) 0

/-- The character that a backslash and a letter stand for. -/
def escaped? : Char → Option Char
  | '"' => some '"'
  | '\\' => some '\\'
  | '/' => some '/'
  | 'b' => some '\x08'
  | 'f' => some '\x0c'
  | 'n' => some '\n'
  | 'r' => some '\r'
  | 't' => some '\t'
  | _ => none

/-- The unit starts a surrogate pair. -/
def isHighSurrogate (unit : Nat) : Bool := 0xd800 ≤ unit && unit < 0xdc00

/-- The unit ends a surrogate pair. -/
def isLowSurrogate (unit : Nat) : Bool := 0xdc00 ≤ unit && unit < 0xe000

/-- A piece of the contents of a string. -/
inductive Piece where
  /-- A character, written as it is or escaped by a letter. -/
  | char (c : Char)
  /-- A 16-bit unit, escaped by its digits. -/
  | unit (value : Nat)

/-- The pieces of a string up to its closing quote, and what follows it. -/
def readPieces? : List Char → Option (List Piece × List Char)
  | [] => none
  | '"' :: rest => some ([], rest)
  | '\\' :: 'u' :: first :: second :: third :: fourth :: rest => do
    let unit ← unit? first second third fourth
    let (pieces, rest) ← readPieces? rest
    return (.unit unit :: pieces, rest)
  | '\\' :: letter :: rest => do
    let c ← escaped? letter
    let (pieces, rest) ← readPieces? rest
    return (.char c :: pieces, rest)
  | c :: rest =>
    if c.toNat < 0x20 || c = '\\' then none
    else do
      let (pieces, rest) ← readPieces? rest
      return (.char c :: pieces, rest)

/-- The characters of a string. Two units that form a surrogate pair stand for one character;
a surrogate without its partner stands for none. -/
def joinPieces? : List Piece → Option (List Char)
  | [] => some []
  | .char c :: rest => (joinPieces? rest).map (c :: ·)
  | .unit unit :: rest =>
    if isHighSurrogate unit then
      match rest with
      | .unit low :: after =>
        if isLowSurrogate low then
          let code := 0x10000 + (unit - 0xd800) * 0x400 + (low - 0xdc00)
          (joinPieces? after).map (Char.ofNat code :: ·)
        else none
      | _ => none
    else if isLowSurrogate unit then none
    else (joinPieces? rest).map (Char.ofNat unit :: ·)

/-- A string behind its opening quote. -/
def readString? (use : Use) (chars : List Char) : Option (String × List Char) := do
  let (pieces, rest) ← readPieces? chars
  match use with
  | .skip => return ("", rest)
  | .keep => return (String.ofList (← joinPieces? pieces), rest)

/-- A value that is no container, at the start of a text. -/
def readScalar? (use : Use) (chars : List Char) : Option (Json × List Char) :=
  match chars with
  | [] => none
  | '"' :: rest => (readString? use rest).map fun (text, rest) => (.string text, rest)
  | 'n' :: _ => ("null".toList.isPrefixOf? chars).map fun rest => (.null, rest)
  | 't' :: _ => ("true".toList.isPrefixOf? chars).map fun rest => (.boolean true, rest)
  | 'f' :: _ => ("false".toList.isPrefixOf? chars).map fun rest => (.boolean false, rest)
  | _ => do
    let (number, rest) ← NumberText.read? chars
    match use with
    | .skip => return (.null, rest)
    | .keep => return (← number.value?, rest)

namespace Reader

variable {Cause α σ : Type}

/-- Stop because the text is not well-formed. -/
def malformed : Reader Cause α := throw .malformed

/-- Stop because of what was read. -/
def reject (cause : Cause) : Reader Cause α := throw (.rejected cause)

/-- The reader that takes the absence of a result for a malformed text. -/
def ofOption (read? : List Char → Option (α × List Char)) : Reader Cause α := fun chars =>
  match read? chars with
  | some result => .ok result
  | none => .error .malformed

/-- Move to the next token and look at its first character. -/
def peek : Reader Cause (Option Char) := do
  modify skipSpace
  return (← get).head?

/-- Step over one character. -/
def advance : Reader Cause Unit := modify List.tail

/-- The items of an array from the first one on, behind the opening bracket or a comma. -/
def itemsFrom (item : Reader Cause α) : (budget : Nat) → Reader Cause (List α)
  | 0 => malformed
  | budget + 1 => do
    let value ← item
    match ← peek with
    | some ',' =>
      advance
      let values ← itemsFrom item budget
      return value :: values
    | some ']' =>
      advance
      return [value]
    | _ => malformed

/-- The items of an array behind its opening bracket. -/
def items (budget : Nat) (item : Reader Cause α) : Reader Cause (List α) := do
  match ← peek with
  | some ']' =>
    advance
    return []
  | _ => itemsFrom item budget

/-- The members of an object from the first one on, behind the opening brace or a comma. -/
def membersFrom (use : Use) (member : σ → String → Reader Cause σ) :
    (budget : Nat) → σ → Reader Cause σ
  | 0, _ => malformed
  | budget + 1, state => do
    match ← peek with
    | some '"' =>
      advance
      let key ← ofOption (readString? use)
      let state ← member state key
      match ← peek with
      | some ',' =>
        advance
        membersFrom use member budget state
      | some '\x7d' =>
        advance
        return state
      | _ => malformed
    | _ => malformed

/-- The members of an object behind its opening brace, folded into a state. The step is given
each key and reads on from the text behind it. -/
def members (use : Use) (budget : Nat) (member : σ → String → Reader Cause σ) (state : σ) :
    Reader Cause σ := do
  match ← peek with
  | some '\x7d' =>
    advance
    return state
  | _ => membersFrom use member budget state

/-- The colon between a key and its value. -/
def colon : Reader Cause Unit := do
  match ← peek with
  | some ':' => advance
  | _ => malformed

/-- A value that is no container. -/
def scalar (use : Use) : Reader Cause Json := ofOption fun chars => readScalar? use (skipSpace chars)

/-- A value, in which at most `depth` containers may be nested in each other. Members are kept in
ascending order of their keys; the last one of a key counts. -/
def value (use : Use) (budget : Nat) : (depth : Nat) → Reader Cause Json
  | 0 => scalar use
  | depth + 1 => do
    match ← peek with
    | some '[' =>
      advance
      return .array (← items budget (value use budget depth))
    | some '\x7b' =>
      advance
      let step (fields : List (String × Json)) (key : String) :
          Reader Cause (List (String × Json)) := do
        colon
        return insertEntry key (← value use budget depth) fields
      return .object (← members use budget step [])
    | _ => scalar use

/-- Step over a value of any depth. -/
def skipValue (budget : Nat) : Reader Cause Unit := do
  let _ ← value .skip budget budget

/-- The value read from a whole text, behind which only blanks may follow. The reader is given
the length of the text as its budget. -/
def run (reader : (budget : Nat) → Reader Cause α) (text : String) : Except (Fault Cause) α := do
  let (value, rest) ← StateT.run (reader text.length) text.toList
  if (skipSpace rest).isEmpty then return value else throw .malformed

end Reader

/-- The number of containers that may be nested in a document. -/
def depthLimit : Nat := 127

/-- The value a whole text stands for. -/
def ofText? (text : String) : Option Json :=
  match (Reader.run (Reader.value .keep · depthLimit) text : Except (Fault Unit) Json) with
  | .ok value => some value
  | .error _ => none

end Json
end AccessAudit
