import QuerySignature.Text.Alphanumeric
import QuerySignature.Text.Blank
import QuerySignature.Text.Decimal

/-!
# Token/Lexeme — how far a lexeme reaches

Each rule looks at the text from some place on and says how many characters from there form a lexeme of
its class, `none` if there is no such lexeme.  A rule takes as much as it can: a name may hold dots but
not end in one, a string runs to its closing marks, a number takes an exponent only if digits follow.
-/

namespace QuerySignature.Lexeme

/-- How many characters from the start satisfy the predicate. -/
def run (p : Char → Bool) (text : Text) : Nat :=
  (text.takeWhile p).length

/-- A run of at least one character. -/
def run? (p : Char → Bool) (text : Text) : Option Nat :=
  let n := run p text
  if n = 0 then none else some n

/-- An ASCII letter. -/
def isLetter (c : Char) : Bool := c.isAlpha

/-- An ASCII letter or digit. -/
def isLetterOrDigit (c : Char) : Bool := c.isAlphanum

/-- A hexadecimal digit. -/
def isHex (c : Char) : Bool :=
  c.isDigit || ('a' ≤ c && c ≤ 'f') || ('A' ≤ c && c ≤ 'F')

/-! ## Comments -/

/-- A comment runs up to the line feed. -/
def comment : Text → Option Nat
  | '#' :: rest => some (1 + run (· != '\n') rest)
  | _ => none

/-! ## IRIs -/

/-- The marks that may not stand inside an IRI. -/
def iriStops : Text :=
  ['<', '>', '"', '\x7b', '\x7d', '|', '^', '\x60', '\\']

/-- A character that may stand inside an IRI: no control, no space, and none of `iriStops`. -/
def isIriChar (c : Char) : Bool :=
  ' ' < c && !iriStops.contains c

/-- An IRI in angle brackets. -/
def iri : Text → Option Nat
  | '<' :: rest =>
    let n := run isIriChar rest
    if (rest.drop n).head? = some '>' then some (n + 2) else none
  | _ => none

/-- A character of an IRI scheme after its first letter. -/
def isSchemeChar (c : Char) : Bool :=
  Text.isWord c || c == '+' || c == '.' || c == '-'

/-- The text after an opening angle bracket starts with a scheme and an authority mark. -/
def hasAuthority (text : Text) : Bool :=
  text.head?.any isLetter && "://".toList.isPrefixOf (text.drop (run isSchemeChar text))

/-- The text after an opening angle bracket is one run of IRI characters, one of them a colon or a
slash, with nothing but white space up to the end of the text. -/
def runsToEnd (text : Text) : Bool :=
  let n := run isIriChar text
  (text.take n).any (fun c => c == ':' || c == '/') && (text.drop n).all Text.isBlank

/-- **An angle bracket that opens an IRI which never closes.**  Any other unclosed bracket is the
less-than sign. -/
def opensIri : Text → Bool
  | '<' :: rest => hasAuthority rest || runsToEnd rest
  | _ => false

/-! ## Names -/

/-- A character inside a namespace label or a blank node label. -/
def isLabelChar (c : Char) : Bool :=
  Text.isWord c || c == '.' || c == '-'

/-- The longest beginning of a run of label characters that does not end in a dot: `taken` characters
have been passed, and the first `good` of them are such a beginning. -/
def labelTail : Text → (taken good : Nat) → Nat
  | [], _, good => good
  | c :: rest, taken, good =>
    if c = '.' then labelTail rest (taken + 1) good
    else if isLabelChar c then labelTail rest (taken + 1) (taken + 1)
    else good

/-- The label of a blank node. -/
def blankLabel : Text → Option Nat
  | '_' :: ':' :: c :: rest => if Text.isWord c then some (labelTail rest 3 3) else none
  | _ => none

/-- The namespace label before a colon, which may be empty: it starts with a letter and does not end
in a dot. -/
def namespaceLabel : Text → Option Nat
  | ':' :: _ => some 0
  | c :: rest =>
    if Text.isAlphanumeric c && !Text.isDecimal c then
      let tail := rest.takeWhile isLabelChar
      if tail.getLast? != some '.' && (rest.drop tail.length).head? = some ':' then
        some (tail.length + 1)
      else none
    else none
  | [] => none

/-- A character that a backslash protects in a local name. -/
def isProtected (c : Char) : Bool :=
  "_~.-!$&'()*+,;=/?#@%".toList.contains c

/-- The longest local name: name characters, colons, percent codes and protected characters, with dots
and hyphens inside but no dot at the end and neither at the start.  `taken` characters have been passed,
and the first `good` of them are a local name. -/
def localName : Text → (taken good : Nat) → Nat
  | '%' :: a :: b :: rest, taken, good =>
    if isHex a && isHex b then localName rest (taken + 3) (taken + 3) else good
  | '\\' :: c :: rest, taken, good =>
    if isProtected c then localName rest (taken + 2) (taken + 2) else good
  | c :: rest, taken, good =>
    if Text.isWord c || c == ':' then localName rest (taken + 1) (taken + 1)
    else if c = '-' ∧ taken ≠ 0 then localName rest (taken + 1) (taken + 1)
    else if c = '.' ∧ taken ≠ 0 then localName rest (taken + 1) good
    else good
  | [], _, good => good

/-- A name under a namespace. -/
def prefixedName (text : Text) : Option Nat :=
  (namespaceLabel text).map fun n => n + 1 + localName (text.drop (n + 1)) 0 0

/-- A variable: a mark and a name. -/
def var : Text → Option Nat
  | c :: rest => if c = '?' ∨ c = '$' then (run? Text.isWord rest).map (· + 1) else none
  | [] => none

/-- A bare word: a name that does not start with a digit. -/
def bareWord : Text → Option Nat
  | c :: rest =>
    if Text.isWord c && !Text.isDecimal c then some (1 + run Text.isWord rest) else none
  | [] => none

/-! ## Literals -/

/-- The rest of a string in three marks, up to and with the closing marks; a backslash protects any
character. -/
def longString (mark : Char) : Text → (taken : Nat) → Option Nat
  | '\\' :: _ :: rest, taken => longString mark rest (taken + 2)
  | c :: rest, taken =>
    if c = mark ∧ [mark, mark].isPrefixOf rest then some (taken + 3)
    else if c = '\\' then none
    else longString mark rest (taken + 1)
  | [], _ => none

/-- The rest of a string in single marks, up to and with the closing mark; it stays on its line, and a
backslash protects any character but a line feed. -/
def shortString (mark : Char) : Text → (taken : Nat) → Option Nat
  | '\\' :: c :: rest, taken => if c = '\n' then none else shortString mark rest (taken + 2)
  | c :: rest, taken =>
    if c = mark then some (taken + 1)
    else if c = '\\' ∨ c = '\n' ∨ c = '\r' then none
    else shortString mark rest (taken + 1)
  | [], _ => none

/-- A string in the marks: three of them or one. -/
def stringIn (mark : Char) (long : Bool) (text : Text) : Option Nat :=
  if long then
    if [mark, mark, mark].isPrefixOf text then longString mark (text.drop 3) 3 else none
  else if text.head? = some mark then shortString mark (text.drop 1) 1
  else none

/-- A quoted string; the long forms come first. -/
def string (text : Text) : Option Nat :=
  (stringIn '"' true text).or <| (stringIn '\'' true text).or <|
    (stringIn '"' false text).or <| stringIn '\'' false text

/-- Further parts of a language tag, each a hyphen and letters or digits: `taken` characters have been
passed, and the first `good` of them are such parts. -/
def subtags : Text → (taken good : Nat) → Nat
  | [], _, good => good
  | c :: rest, taken, good =>
    if c = '-' ∧ taken = good then subtags rest (taken + 1) good
    else if isLetterOrDigit c ∧ taken ≠ 0 then subtags rest (taken + 1) (taken + 1)
    else good

/-- A language tag without its mark: letters, then further parts. -/
def languageTag (text : Text) : Option Nat :=
  (run? isLetter text).map fun n => n + subtags (text.drop n) 0 0

/-- What may follow a string without a gap: a language tag or a datatype. -/
def annotated : Text → Option Nat
  | '@' :: rest => (languageTag rest).map (· + 1)
  | '^' :: '^' :: rest => ((iri rest).or (prefixedName rest)).map (· + 2)
  | _ => none

/-- A string with its language tag or datatype. -/
def quotedLiteral (text : Text) : Option Nat :=
  (string text).map fun n => n + (annotated (text.drop n)).getD 0

/-- The exponent of a number: a mark, a sign if there is one, and digits. -/
def exponent : Text → Option Nat
  | e :: sign :: rest =>
    if e ≠ 'e' ∧ e ≠ 'E' then none
    else if sign = '+' ∨ sign = '-' then (run? Text.isDecimal rest).map (· + 2)
    else (run? Text.isDecimal (sign :: rest)).map (· + 1)
  | _ => none

/-- A point with digits behind it. -/
def fraction : Text → Option Nat
  | '.' :: rest => (run? Text.isDecimal rest).map (· + 1)
  | _ => none

/-- Digits, a point, and digits behind it; there need be none in front. -/
def decimal (text : Text) : Option Nat :=
  let whole := run Text.isDecimal text
  (fraction (text.drop whole)).map (whole + ·)

/-- Digits and a point, with digits in front of it or behind it. -/
def pointed (text : Text) : Option Nat :=
  let whole := run Text.isDecimal text
  if whole ≠ 0 ∧ (text.drop whole).head? = some '.' then
    some (whole + 1 + run Text.isDecimal (text.drop (whole + 1)))
  else decimal text

/-- What a rule finds, with an exponent behind it. -/
def scaled (mantissa : Text → Option Nat) (text : Text) : Option Nat := do
  let n ← mantissa text
  return n + (← exponent (text.drop n))

/-- A number: digits and a point in any of their forms before an exponent; without one, a point needs
digits behind it. -/
def number (text : Text) : Option Nat :=
  (scaled pointed text).or <| (scaled (run? Text.isDecimal) text).or <|
    (decimal text).or (run? Text.isDecimal text)

/-- A character next to which a truth value is part of a longer word: an ASCII letter or digit, the low
line, the dollar sign, and the two characters whose upper case is an ASCII letter. -/
def joinsWord (c : Char) : Bool :=
  c.isAlphanum || c == '_' || c == '$' || c == 'ı' || c == 'ſ'

/-- The text starts with the word, which is in upper case, in any case; the long s counts as an s. -/
def startsWith : (word text : Text) → Bool
  | [], _ => true
  | _ :: _, [] => false
  | w :: word, c :: text => (c.toUpper == w || (c == 'ſ' && w == 'S')) && startsWith word text

/-- A truth value that is not part of a longer word; `before` is the character before it. -/
def truthValue (before : Option Char) (text : Text) : Option Nat :=
  ["TRUE".toList, "FALSE".toList].findSome? fun word =>
    if startsWith word text && !before.any joinsWord
        && !(text.drop word.length).head?.any joinsWord
    then some word.length else none

/-! ## Symbols -/

/-- The symbols, those of two characters first. -/
def symbols : List Text :=
  ["^^", "&&", "||", "!=", "<=", ">=", "\x7b", "\x7d", "(", ")", "[", "]", ".", ";", ",", "*",
    "=", "<", ">", "!", "+", "-", "/", "^", "|", "?"].map String.toList

/-- A symbol. -/
def symbol (text : Text) : Option Nat :=
  (symbols.find? (·.isPrefixOf text)).map List.length

end QuerySignature.Lexeme
