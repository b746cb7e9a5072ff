import Dialect.Decimal.Reader
import Dialect.Text.Quoted
import Dialect.Value.Basic
import Dialect.Word

/-!
The scalars of the TOML notation: strings, numbers, truth values and dates.

Dates and times are kept as texts in their usual spelling.
-/

namespace Dialect.Toml

/-- A blank inside a line. -/
def isBlank (c : Char) : Bool := c = ' ' || c = '\t'

/-- The text without the blanks at its start. -/
def skipBlanks (cs : List Char) : List Char := cs.dropWhile isBlank

/-- A control character that may stand in no string and no comment. -/
def isControl (c : Char) : Bool := (c.toNat < 0x20 && c != '\t') || c.toNat = 0x7F

/-- What follows an end of line at the start of a text. -/
def afterNewline? : List Char → Option (List Char)
  | '\n' :: rest => some rest
  | '\r' :: '\n' :: rest => some rest
  | _ => none

/-- The text without the blanks and line ends at its start. -/
def skipLines : List Char → List Char
  | [] => []
  | '\n' :: rest => skipLines rest
  | '\r' :: '\n' :: rest => skipLines rest
  | c :: rest => if isBlank c then skipLines rest else c :: rest

/-- The text from the end of a comment on; none if the comment holds a control character. -/
def afterComment? : List Char → Option (List Char)
  | [] => some []
  | '\n' :: rest => some ('\n' :: rest)
  | '\r' :: '\n' :: rest => some ('\r' :: '\n' :: rest)
  | c :: rest => if isControl c then none else afterComment? rest

/-- The number of hexadecimal digits, if they all are. -/
def hexNumber? (digits : List Char) : Option Nat :=
  digits.foldlM (fun n c => (Text.Quoted.hexValue? c).map (n * 16 + ·)) 0

/-- The character with a number, and what follows its digits. -/
def charFrom (count : Nat) (cs : List Char) : Option (Char × List Char) :=
  let digits := cs.take count
  if digits.length < count then none
  else
    match hexNumber? digits with
    | some n => if h : n.isValidChar then some (Char.ofNatAux n h, cs.drop count) else none
    | none => none

/-- The character of an escape whose backslash has been read. -/
def escape : List Char → Option (Char × List Char)
  | 'b' :: rest => some ('\x08', rest)
  | 't' :: rest => some ('\t', rest)
  | 'n' :: rest => some ('\n', rest)
  | 'f' :: rest => some ('\x0c', rest)
  | 'r' :: rest => some ('\r', rest)
  | 'e' :: rest => some ('\x1b', rest)
  | '"' :: rest => some ('"', rest)
  | '\\' :: rest => some ('\\', rest)
  | 'x' :: rest => charFrom 2 rest
  | 'u' :: rest => charFrom 4 rest
  | 'U' :: rest => charFrom 8 rest
  | _ => none

/-- A text read, and what follows it. -/
abbrev Read (α : Type) := Option (α × List Char)

/-- One more character before a text read. -/
def Read.cons (c : Char) (r : Read (List Char)) : Read (List Char) :=
  r.map fun (cs, rest) => (c :: cs, rest)

/-- The text of a string in double quotes, after the first. -/
def basic : (fuel : Nat) → List Char → Read (List Char)
  | 0, _ => none
  | _ + 1, [] => none
  | _ + 1, '"' :: rest => some ([], rest)
  | fuel + 1, '\\' :: rest =>
    match escape rest with
    | some (c, rest) => Read.cons c (basic fuel rest)
    | none => none
  | fuel + 1, c :: rest => if isControl c then none else Read.cons c (basic fuel rest)

/-- The text of a string in single quotes, after the first. -/
def literal : List Char → Read (List Char)
  | [] => none
  | '\'' :: rest => some ([], rest)
  | c :: rest => if isControl c then none else Read.cons c (literal rest)

/-- The end of a string over several lines: up to two quotes may stand before the closing three. -/
def closing? (quote : Char) (cs : List Char) : Read (List Char) :=
  let quotes := cs.takeWhile (· == quote)
  if quotes.length < 3 then none
  else
    let extra := min (quotes.length - 3) 2
    some (List.replicate extra quote, cs.drop (extra + 3))

/-- The text of a string over several lines, after its opening quotes and the line end behind them.
A line end stays as it is spelled; a backslash at the end of a line joins it with the next text. -/
def multiline (quote : Char) (escapes : Bool) : (fuel : Nat) → List Char → Read (List Char)
  | 0, _ => none
  | _ + 1, [] => none
  | fuel + 1, c :: rest =>
    if c = quote then
      match closing? quote (c :: rest) with
      | some found => some found
      | none => Read.cons c (multiline quote escapes fuel rest)
    else if c = '\\' && escapes then
      match afterNewline? (skipBlanks rest) with
      | some next => multiline quote escapes fuel (skipLines next)
      | none =>
        match escape rest with
        | some (d, rest) => Read.cons d (multiline quote escapes fuel rest)
        | none => none
    else if c = '\n' then Read.cons c (multiline quote escapes fuel rest)
    else if c = '\r' then
      match rest with
      | '\n' :: after => Read.cons c (Read.cons '\n' (multiline quote escapes fuel after))
      | _ => none
    else if isControl c then none
    else Read.cons c (multiline quote escapes fuel rest)

/-- A string over several lines without the line end right behind its opening. -/
def multilineBody (quote : Char) (escapes : Bool) (cs : List Char) : Read (List Char) :=
  multiline quote escapes (cs.length + 1) ((afterNewline? cs).getD cs)

/-- A string of any of the four forms. -/
def string : List Char → Read (List Char)
  | '"' :: '"' :: '"' :: rest => multilineBody '"' true rest
  | '\'' :: '\'' :: '\'' :: rest => multilineBody '\'' false rest
  | '"' :: rest => basic (rest.length + 1) rest
  | '\'' :: rest => literal rest
  | _ => none

/-- Digits of a base without the underscores between them; none if one stands elsewhere. -/
def plainDigits (isDigit : Char → Bool) : List Char → Option (List Char)
  | [] => none
  | [c] => if isDigit c then some [c] else none
  | c :: '_' :: rest => if isDigit c then (plainDigits isDigit rest).map (c :: ·) else none
  | c :: d :: rest => if isDigit c then (plainDigits isDigit (d :: rest)).map (c :: ·) else none

/-- A sign at the start of a number. -/
def sign : List Char → Bool × List Char
  | '-' :: rest => (true, rest)
  | '+' :: rest => (false, rest)
  | cs => (false, cs)

/-- The digits of a whole number without needless zeros in front. -/
def wholeDigits (cs : List Char) : Option (List Char) :=
  match plainDigits Char.isDigit cs with
  | some ('0' :: _ :: _) => none
  | found => found

/-- An integer in words of 64 bits. -/
def bounded (negative : Bool) (n : Nat) : Option Value :=
  (Word.signed64? negative n).map fun i => .number (.int i)

/-- The value of a digit in a base. -/
def digitIn? (base : Nat) (c : Char) : Option Nat :=
  (Text.Quoted.hexValue? c).filter (· < base)

/-- An unsigned integer in another base than ten. -/
def inBase (base : Nat) (cs : List Char) : Option Value := do
  let digits ← plainDigits (fun c => (digitIn? base c).isSome) cs
  bounded false (digits.foldl (fun n c => n * base + (digitIn? base c).getD 0) 0)

/-- A float with a fraction, an exponent or both, within the range of floats. -/
def float? (negative : Bool) (cs : List Char) : Option Value := do
  let mantissa := cs.takeWhile fun c => c != 'e' && c != 'E'
  let power := cs.drop mantissa.length
  let whole := mantissa.takeWhile (· != '.')
  let fraction := mantissa.drop whole.length
  let whole ← wholeDigits whole
  let fraction ←
    match fraction with
    | [] => some []
    | _ :: digits => plainDigits Char.isDigit digits
  let exponent : Int ←
    match power with
    | [] => some 0
    | _ :: rest =>
      let (minus, rest) := sign rest
      (plainDigits Char.isDigit rest).map fun ds =>
        let n : Int := Decimal.natOfDigits ds
        if minus then -n else n
  let x := Decimal.rounded (Decimal.natOfDigits (whole ++ fraction)) (exponent - fraction.length)
  if x.isFinite then some (.number (.float (if negative then -x else x))) else none

/-- What follows a number of so many digits within bounds. -/
def field (width low high : Nat) (cs : List Char) : Option (List Char) :=
  let digits := cs.take width
  let n := Decimal.natOfDigits digits
  if digits.length = width && digits.all Char.isDigit && low ≤ n && n ≤ high then
    some (cs.drop width)
  else none

/-- What follows a mark. -/
def mark (c : Char) : List Char → Option (List Char)
  | d :: rest => if c = d then some rest else none
  | [] => none

/-- The days of a month. -/
def daysIn (year month : Nat) : Nat :=
  if month = 2 then
    (if year % 4 = 0 && (year % 100 != 0 || year % 400 = 0) then 29 else 28)
  else if month = 4 || month = 6 || month = 9 || month = 11 then 30
  else 31

/-- A date, year first. -/
def date (cs : List Char) : Option (List Char × List Char) := do
  let rest ← field 4 0 9999 cs
  let rest ← mark '-' rest
  let rest ← field 2 1 12 rest
  let rest ← mark '-' rest
  let year := Decimal.natOfDigits (cs.take 4)
  let month := Decimal.natOfDigits ((cs.drop 5).take 2)
  let rest ← field 2 1 (daysIn year month) rest
  pure (cs.take 10, rest)

/-- The seconds of a time, after its minutes. Of a fraction nine digits are kept, without zeros at
the end but never without a digit. -/
def seconds (cs : List Char) : Option (List Char × List Char) := do
  let rest ← field 2 0 60 cs
  match rest with
  | '.' :: rest =>
    let digits := rest.takeWhile Char.isDigit
    if digits.isEmpty then none
    else
      let kept := ((digits.take 9).reverse.dropWhile (· == '0')).reverse
      pure (cs.take 2 ++ '.' :: (if kept.isEmpty then ['0'] else kept), rest.drop digits.length)
  | rest => pure (cs.take 2, rest)

/-- A time of day, with or without seconds. -/
def time (cs : List Char) : Option (List Char × List Char) := do
  let rest ← field 2 0 23 cs
  let rest ← mark ':' rest
  let rest ← field 2 0 59 rest
  match rest with
  | ':' :: rest => do
    let (second, rest) ← seconds rest
    pure (cs.take 5 ++ ':' :: second, rest)
  | rest => pure (cs.take 5, rest)

/-- The distance of a local time from universal time. No distance has a plus sign. -/
def zone (cs : List Char) : Option (List Char × List Char) :=
  match cs with
  | [] => some ([], [])
  | c :: rest =>
    if c = 'Z' ∨ c = 'z' then some (['Z'], rest)
    else if c = '+' ∨ c = '-' then do
      let rest ← field 2 0 23 rest
      let rest ← mark ':' rest
      let rest ← field 2 0 59 rest
      let distance := (cs.drop 1).take 5
      pure ((if distance = "00:00".toList then '+' else c) :: distance, rest)
    else none

/-- A date, a time, or both with an optional zone, in their usual spelling. -/
def dateTime? (cs : List Char) : Option (List Char) :=
  match date cs with
  | some (day, []) => some day
  | some (day, c :: rest) =>
    if c = 'T' ∨ c = 't' ∨ c = ' ' then do
      let (hour, rest) ← time rest
      let (zone, rest) ← zone rest
      if rest.isEmpty then some (day ++ 'T' :: hour ++ zone) else none
    else none
  | none =>
    match time cs with
    | some (hour, []) => some hour
    | _ => none

/-- The scalar that a word denotes. -/
def scalarOf (word : List Char) : Option Value :=
  let (negative, body) := sign word
  if word = "true".toList then some (.bool true)
  else if word = "false".toList then some (.bool false)
  else if body = "inf".toList then some (.number (.float (if negative then -(1 / 0) else 1 / 0)))
  else if body = "nan".toList then some (.number (.float (if negative then -(0 / 0) else 0 / 0)))
  else
    match word with
    | '0' :: 'x' :: digits => inBase 16 digits
    | '0' :: 'o' :: digits => inBase 8 digits
    | '0' :: 'b' :: digits => inBase 2 digits
    | _ =>
      match dateTime? word with
      | some text => some (.text (String.ofList text))
      | none =>
        match wholeDigits body with
        | some digits => bounded negative (Decimal.natOfDigits digits)
        | none =>
          if body.any fun c => c = '.' || c = 'e' || c = 'E' then float? negative body else none

/-- The character ends a word. -/
def endsWord (c : Char) : Bool :=
  c = ' ' || c = '\t' || c = '\n' || c = '\r' || c = ',' || c = '#' || c = ']' || c = '\x7d'

/-- The word at the start of a text. A single blank between a date and a time belongs to it. -/
def word (cs : List Char) : List Char × List Char :=
  let first := cs.takeWhile fun c => !endsWord c
  let rest := cs.drop first.length
  match date first, rest with
  | some (_, []), ' ' :: c :: after =>
    if c.isDigit then
      let second := (c :: after).takeWhile fun c => !endsWord c
      (first ++ ' ' :: second, rest.drop (second.length + 1))
    else (first, rest)
  | _, _ => (first, rest)

end Dialect.Toml
