import ClusterFeed.Json.Basic
import ClusterFeed.Text.Hex
import ClusterFeed.Text.Utf8

/-!
# Tokens of JSON

A text in JSON is first split into tokens: brackets, separators, words, numbers and texts. The
splitting is done by a machine that reads one unit at a time. Two tokens may stand side by side
without a blank, since no valid text has two words or numbers next to each other.

A text may hold unreadable octets and halves of surrogate pairs; it is then a token that denotes no
characters. Control characters and unknown escapes are not allowed in any text.
-/

namespace ClusterFeed.Json

open ClusterFeed.Text (Unit8)

/-- What stands between the quotes of a text, piece by piece. -/
inductive Piece where
  /-- A character. -/
  | char (c : Char)
  /-- An escaped code unit, which may be half of a surrogate pair. -/
  | unit (n : Nat)
  /-- An unreadable stretch of octets. -/
  | bad

/-- The characters that the pieces denote: code units above the basic plane come in pairs. -/
def joinPieces : List Piece → Option (List Char)
  | [] => some []
  | .char c :: ps => (joinPieces ps).map (c :: ·)
  | .bad :: _ => none
  | .unit h :: .unit l :: ps =>
    if 0xD800 ≤ h && h ≤ 0xDBFF then
      if 0xDC00 ≤ l && l ≤ 0xDFFF then
        (joinPieces ps).map (Char.ofNat (0x10000 + (h - 0xD800) * 0x400 + (l - 0xDC00)) :: ·)
      else none
    else if 0xDC00 ≤ h && h ≤ 0xDFFF then none
    else (joinPieces (.unit l :: ps)).map (Char.ofNat h :: ·)
  | .unit n :: ps =>
    if 0xD800 ≤ n && n ≤ 0xDFFF then none else (joinPieces ps).map (Char.ofNat n :: ·)

/-- A token. -/
inductive Token where
  /-- The start of an object. -/
  | openObj
  /-- The end of an object. -/
  | closeObj
  /-- The start of an array. -/
  | openArr
  /-- The end of an array. -/
  | closeArr
  /-- The separator of items. -/
  | comma
  /-- The separator of a name and its value. -/
  | colon
  /-- The absent value. -/
  | null
  /-- A truth value. -/
  | bool (b : Bool)
  /-- A number. -/
  | num (n : Number)
  /-- A text; `none` when it denotes no characters. -/
  | text (s : Option String)
  deriving DecidableEq

/-- The value of decimal digits. -/
def natOfDigits (ds : List Char) : Nat :=
  ds.foldl (fun n d => n * 10 + (d.toNat - 48)) 0

/-- Whether the characters are an exponent, or nothing. -/
def isExponent : List Char → Bool
  | [] => true
  | e :: '+' :: ds => (e == 'e' || e == 'E') && !ds.isEmpty && ds.all Char.isDigit
  | e :: '-' :: ds => (e == 'e' || e == 'E') && !ds.isEmpty && ds.all Char.isDigit
  | e :: ds => (e == 'e' || e == 'E') && !ds.isEmpty && ds.all Char.isDigit

/-- Whether the characters are a fraction and an exponent, either of which may be missing. -/
def isNumberTail : List Char → Bool
  | '.' :: cs => !(cs.takeWhile Char.isDigit).isEmpty && isExponent (cs.dropWhile Char.isDigit)
  | cs => isExponent cs

/-- The number that the characters after the sign write: no superfluous zero comes first. -/
def unsigned? (negative : Bool) (cs : List Char) : Option Number :=
  let ds := cs.takeWhile Char.isDigit
  let tail := cs.dropWhile Char.isDigit
  if ds.isEmpty || (ds.head? == some '0' && ds.length != 1) then none
  else if isNumberTail tail then some ⟨negative, natOfDigits ds, String.ofList tail⟩ else none

/-- The number that the characters write. -/
def number? : List Char → Option Number
  | '-' :: cs => unsigned? true cs
  | cs => unsigned? false cs

/-- The token that a run of letters is. -/
def word? (cs : List Char) : Option Token :=
  if cs = ['n', 'u', 'l', 'l'] then some .null
  else if cs = ['t', 'r', 'u', 'e'] then some (.bool true)
  else if cs = ['f', 'a', 'l', 's', 'e'] then some (.bool false)
  else none

/-- Where the machine stands. What has been read of a token comes last first. -/
inductive Scan where
  /-- Between tokens. -/
  | idle
  /-- In a run of letters. -/
  | word (read : List Char)
  /-- In a number. -/
  | number (read : List Char)
  /-- Between the quotes of a text. -/
  | text (read : List Piece)
  /-- After a backslash. -/
  | escape (read : List Piece)
  /-- In an escaped code unit, of which `left + 1` digits are due. -/
  | hex (read : List Piece) (left : Nat) (value : Nat)

/-- Whether a character can stand in a number. -/
def inNumber (c : Char) : Bool :=
  c.isDigit || c == '-' || c == '+' || c == '.' || c == 'e' || c == 'E'

/-- Whether a character can stand in a word. -/
def inWord (c : Char) : Bool :=
  'a' ≤ c && c ≤ 'z'

/-- The character that a letter after a backslash stands for. -/
def escaped? (c : Char) : Option Char :=
  match c with
  | '"' => some '"'
  | '\\' => some '\\'
  | '/' => some '/'
  | 'b' => some '\x08'
  | 'f' => some '\x0c'
  | 'n' => some '\n'
  | 'r' => some '\r'
  | 't' => some '\t'
  | _ => none

/-- One character between tokens: the tokens read so far, and where the machine goes. -/
def begin? (acc : List Token) (c : Char) : Option (Scan × List Token) :=
  match c with
  | ' ' | '\t' | '\n' | '\r' => some (.idle, acc)
  | '\x7b' => some (.idle, .openObj :: acc)
  | '\x7d' => some (.idle, .closeObj :: acc)
  | '[' => some (.idle, .openArr :: acc)
  | ']' => some (.idle, .closeArr :: acc)
  | ',' => some (.idle, .comma :: acc)
  | ':' => some (.idle, .colon :: acc)
  | '"' => some (.text [], acc)
  | c =>
    if c == '-' || c.isDigit then some (.number [c], acc)
    else if inWord c then some (.word [c], acc)
    else none

/-- Closes a word or a number. -/
def flush? (acc : List Token) : Scan → Option (List Token)
  | .idle => some acc
  | .word read => (word? read.reverse).map (· :: acc)
  | .number read => (number? read.reverse).map (.num · :: acc)
  | _ => none

/-- One step of the machine. -/
def step? (st : Scan) (acc : List Token) (u : Unit8) : Option (Scan × List Token) :=
  match st, u with
  | .text read, none => some (.text (.bad :: read), acc)
  | .text read, some c =>
    if c == '"' then some (.idle, .text ((joinPieces read.reverse).map String.ofList) :: acc)
    else if c == '\\' then some (.escape read, acc)
    else if c.toNat < 0x20 then none
    else some (.text (.char c :: read), acc)
  | .escape read, some c =>
    if c == 'u' then some (.hex read 3 0, acc)
    else (escaped? c).map fun e => (.text (.char e :: read), acc)
  | .hex read left value, some c => do
    let d ← Text.Hex.value? c
    match left with
    | 0 => some (.text (.unit (value * 16 + d) :: read), acc)
    | n + 1 => some (.hex read n (value * 16 + d), acc)
  | .idle, some c => begin? acc c
  | .word read, some c =>
    if inWord c then some (.word (c :: read), acc)
    else do begin? (← flush? acc (.word read)) c
  | .number read, some c =>
    if inNumber c then some (.number (c :: read), acc)
    else do begin? (← flush? acc (.number read)) c
  | _, none => none

/-- Runs the machine over the units. -/
def scan? : Scan → List Token → List Unit8 → Option (Scan × List Token)
  | st, acc, [] => some (st, acc)
  | st, acc, u :: us =>
    match step? st acc u with
    | some (st, acc) => scan? st acc us
    | none => none

/-- The tokens of a text in JSON. -/
def tokens? (us : List Unit8) : Option (List Token) := do
  let (st, acc) ← scan? .idle [] us
  return (← flush? acc st).reverse

/-- Whether letters are the beginning of a word. -/
def beginsWord (cs : List Char) : Bool :=
  [['n', 'u', 'l', 'l'], ['t', 'r', 'u', 'e'], ['f', 'a', 'l', 's', 'e']].any cs.isPrefixOf

/-- A token that the one may become in which the machine stands, if it may become any. -/
def Scan.promise? : Scan → Option Token
  | .idle => none
  | .word read => if beginsWord read.reverse then some .null else none
  | .number read => (number? (read.reverse ++ ['0'])).map .num
  | .text _ => some (.text none)
  | .escape _ => some (.text none)
  | .hex _ _ _ => some (.text none)

/-- The tokens of the beginning of a text in JSON, and whether the last one is still to be
completed. -/
def firstTokens? (us : List Unit8) : Option (List Token × Bool) := do
  let (st, acc) ← scan? .idle [] us
  match flush? acc st with
  | some acc => return (acc.reverse, false)
  | none => return (((← st.promise?) :: acc).reverse, true)

end ClusterFeed.Json
