import ClientPackager.Json.Reader
import ClientPackager.Version

set_option autoImplicit false

namespace ClientPackager.Toml

def isPrintable (c : Char) : Bool := c == '\t' || (0x20 ≤ c.toNat && c.toNat != 0x7f)

def lineBreak? : List Char → Option (List Char)
  | '\n' :: rest => some rest
  | '\r' :: '\n' :: rest => some rest
  | _ => none

def isSpace (c : Char) : Bool := c == ' ' || c == '\t'

def skipSpace (cs : List Char) : List Char := cs.dropWhile isSpace

def charOf (code : Nat) : Option Char :=
  if code < 0xd800 || (0xdfff < code && code ≤ 0x10ffff) then some (Char.ofNat code) else none

def coded (count : Nat) (cs : List Char) : Option (Char × List Char) := do
  guard (count ≤ cs.length)
  return (← charOf (← Text.ofDigits? 16 (cs.take count)), cs.drop count)

def escaped : List Char → Option (Char × List Char)
  | 'b' :: rest => some (Char.ofNat 0x08, rest)
  | 't' :: rest => some ('\t', rest)
  | 'n' :: rest => some ('\n', rest)
  | 'f' :: rest => some (Char.ofNat 0x0c, rest)
  | 'r' :: rest => some ('\r', rest)
  | 'e' :: rest => some (Char.ofNat 0x1b, rest)
  | '"' :: rest => some ('"', rest)
  | '\\' :: rest => some ('\\', rest)
  | 'x' :: rest => coded 2 rest
  | 'u' :: rest => coded 4 rest
  | 'U' :: rest => coded 8 rest
  | _ => none

def basicString : Nat → List Char → Option (List Char × List Char)
  | 0, _ => none
  | _, [] => none
  | fuel + 1, c :: rest =>
    if c = '"' then some ([], rest)
    else if c = '\\' then do
      let (c, rest) ← escaped rest
      let (text, rest) ← basicString fuel rest
      return (c :: text, rest)
    else do
      guard (isPrintable c)
      let (text, rest) ← basicString fuel rest
      return (c :: text, rest)

def literalString : List Char → Option (List Char × List Char)
  | [] => none
  | c :: rest =>
    if c = '\x27' then some ([], rest)
    else do
      guard (isPrintable c)
      let (text, rest) ← literalString rest
      return (c :: text, rest)

-- The quotes that end a string of several lines: three of them, and up to two more that
-- belong to the string.
def closing (quote : Char) (cs : List Char) : Option (List Char × List Char) :=
  let count := (cs.takeWhile (· == quote)).length
  if count < 3 then none
  else
    let inside := min (count - 3) 2
    some (List.replicate inside quote, cs.drop (inside + 3))

def skipLines (cs : List Char) : List Char :=
  cs.dropWhile fun c => isSpace c || c == '\n' || c == '\r'

-- Whether every carriage return in front of the first other character comes before a
-- line feed.
def brokenProperly : List Char → Bool
  | '\r' :: '\n' :: rest => brokenProperly rest
  | '\r' :: _ => false
  | c :: rest => if isSpace c || c == '\n' then brokenProperly rest else true
  | [] => true

def breakChars : List Char → List Char
  | '\r' :: _ => ['\r', '\n']
  | _ => ['\n']

-- Line breaks in the string stay as they are.
def longString (quote : Char) : Nat → List Char → Option (List Char × List Char)
  | 0, _ => none
  | fuel + 1, cs =>
    match closing quote cs with
    | some ended => some ended
    | none =>
      match lineBreak? cs with
      | some rest => do
        let (text, rest) ← longString quote fuel rest
        return (breakChars cs ++ text, rest)
      | none =>
        match cs with
        | [] => none
        | c :: rest =>
          if c = '\\' && quote = '"' then
            match lineBreak? (skipSpace rest) with
            | some later => do
              guard (brokenProperly later)
              longString quote fuel (skipLines later)
            | none => do
              let (c, rest) ← escaped rest
              let (text, rest) ← longString quote fuel rest
              return (c :: text, rest)
          else do
            guard (isPrintable c)
            let (text, rest) ← longString quote fuel rest
            return (c :: text, rest)

def readString (cs : List Char) : Option (String × List Char) := do
  let (text, rest) ← match cs with
    | '"' :: '"' :: '"' :: rest =>
      let body := (lineBreak? rest).getD rest
      longString '"' (body.length + 1) body
    | '\x27' :: '\x27' :: '\x27' :: rest =>
      let body := (lineBreak? rest).getD rest
      longString '\x27' (body.length + 1) body
    | '"' :: rest => basicString (rest.length + 1) rest
    | '\x27' :: rest => literalString rest
    | _ => none
  return (String.ofList text, rest)

def grouped (isDigit : Char → Bool) : List Char → Option (List Char)
  | [] => none
  | [last] => if isDigit last then some [last] else none
  | c :: '_' :: rest => if isDigit c then (grouped isDigit rest).map (c :: ·) else none
  | c :: next :: rest => if isDigit c then (grouped isDigit (next :: rest)).map (c :: ·) else none

def isHexDigit (c : Char) : Bool := (Text.hexValue? c).isSome

def wholeDigits (cs : List Char) : Option (List Char) := do
  let digits ← grouped Char.isDigit cs
  guard (digits.length = 1 || digits.head? ≠ some '0')
  return digits

def dropSign : List Char → List Char
  | '+' :: rest => rest
  | '-' :: rest => rest
  | cs => cs

def natOf (radix : Nat) (isDigit : Char → Bool) (cs : List Char) : Option Nat :=
  (grouped isDigit cs).bind (Text.ofDigits? radix)

def integer? (cs : List Char) : Option Json := do
  let n ← match cs with
    | '0' :: 'x' :: rest => natOf 16 isHexDigit rest
    | '0' :: 'o' :: rest => natOf 8 (fun c => '0' ≤ c && c ≤ '7') rest
    | '0' :: 'b' :: rest => natOf 2 (fun c => c == '0' || c == '1') rest
    | _ => (wholeDigits (dropSign cs)).bind (Text.ofDigits? 10)
  return .number ((if cs.head? = some '-' then "-" else "") ++ toString n)

def isExponent : List Char → Bool
  | [] => true
  | mark :: rest => (mark == 'e' || mark == 'E') && (grouped Char.isDigit (dropSign rest)).isSome

def isExponentMark (c : Char) : Bool := c == 'e' || c == 'E'

def float? (cs : List Char) : Option Json := do
  let unsigned := dropSign cs
  if unsigned = ['i', 'n', 'f'] || unsigned = ['n', 'a', 'n'] then return .undecodable
  let isMark := fun c => c == '.' || isExponentMark c
  discard (wholeDigits (unsigned.takeWhile fun c => !isMark c))
  match unsigned.dropWhile fun c => !isMark c with
  | [] => none
  | '.' :: later =>
    discard (grouped Char.isDigit (later.takeWhile fun c => !isExponentMark c))
    guard (isExponent (later.dropWhile fun c => !isExponentMark c))
  | later => guard (isExponent later)
  let sign := if cs.head? = some '-' then ['-'] else []
  return .number (String.ofList (sign ++ unsigned.filter (· ≠ '_')))

def digitsOf (count : Nat) (cs : List Char) : Option (Nat × List Char) :=
  let digits := cs.take count
  if digits.length = count && digits.all Char.isDigit then
    some (digits.foldl (fun n c => 10 * n + (c.toNat - 48)) 0, cs.drop count)
  else none

def afterDate (cs : List Char) : Option (List Char) := do
  let (year, cs) ← digitsOf 4 cs
  guard (cs.head? = some '-')
  let (month, cs) ← digitsOf 2 cs.tail
  guard (cs.head? = some '-')
  let (day, cs) ← digitsOf 2 cs.tail
  guard (Date.isDay year month day)
  return cs

def afterFraction : List Char → Option (List Char)
  | '.' :: rest => if rest.takeWhile Char.isDigit = [] then none else some (rest.dropWhile Char.isDigit)
  | cs => some cs

def afterTime (cs : List Char) : Option (List Char) := do
  let (hour, cs) ← digitsOf 2 cs
  guard (cs.head? = some ':')
  let (minute, cs) ← digitsOf 2 cs.tail
  guard (hour ≤ 23 && minute ≤ 59)
  match cs with
  | ':' :: rest =>
    let (second, cs) ← digitsOf 2 rest
    guard (second ≤ 60)
    afterFraction cs
  | _ => return cs

def isOffset : List Char → Bool
  | [] | ['Z'] | ['z'] => true
  | sign :: rest =>
    (sign == '+' || sign == '-') &&
    match digitsOf 2 rest with
    | some (hour, ':' :: later) =>
      match digitsOf 2 later with
      | some (minute, []) => hour ≤ 23 && minute ≤ 59
      | _ => false
    | _ => false

def isDateTime (cs : List Char) : Bool :=
  afterTime cs = some [] ||
  match afterDate cs with
  | some [] => true
  | some (mark :: rest) =>
    (mark == 'T' || mark == 't' || mark == ' ') && ((afterTime rest).map isOffset).getD false
  | none => false

def isScalarChar (c : Char) : Bool :=
  c.isAlphanum || c == '+' || c == '-' || c == '.' || c == '_' || c == ':'

def scalarText (cs : List Char) : List Char × List Char :=
  let text := cs.takeWhile isScalarChar
  let rest := cs.dropWhile isScalarChar
  match rest with
  | ' ' :: later =>
    if afterDate text = some [] && (later.head?.map Char.isDigit).getD false then
      (text ++ ' ' :: later.takeWhile isScalarChar, later.dropWhile isScalarChar)
    else (text, rest)
  | _ => (text, rest)

-- A date has no JSON form, so it denotes nothing that a typed reader accepts.
def scalar? (text : List Char) : Option Json :=
  if text = ['t', 'r', 'u', 'e'] then some (.bool true)
  else if text = ['f', 'a', 'l', 's', 'e'] then some (.bool false)
  else if isDateTime text then some .undecodable
  else (integer? text).or (float? text)

end ClientPackager.Toml
