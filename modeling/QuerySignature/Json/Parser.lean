import QuerySignature.Json.Lexeme

/-!
# Json/Parser — reading JSON

`Json.parse` reads a text as one JSON value.  It runs over the words of the text with the brackets that
are still open on a stack (`step`), so it ends with the words and nests without bound unless the
dialect sets one.  A `Dialect` fixes what the standard leaves open or a reader adds: names for the
numbers that have no digits, how long or wide a whole number may be, surrogates without a partner.
-/

namespace QuerySignature.Json

/-- **What a reader accepts** beyond or below the standard. -/
structure Dialect where
  /-- `NaN`, `Infinity` and `-Infinity` are numbers, and a number too large is infinite. -/
  extremes : Bool
  /-- A surrogate escape may stand without its partner. -/
  unpaired : Bool
  /-- The most digits a whole number may have. -/
  maxDigits : Option Nat
  /-- Whole numbers beyond 64 bits are read as fractional numbers. -/
  wordIntegers : Bool
  /-- The most brackets that may be open at once. -/
  maxDepth : Option Nat

/-- The dialect of hand-written settings files. -/
def Dialect.lenient : Dialect := ⟨true, true, some 4300, false, none⟩

/-- The dialect of exchanged documents. -/
def Dialect.strict : Dialect := ⟨false, false, none, true, some 1023⟩

/-- **Why a text was not read.** -/
inductive ParseFault where
  /-- The text is not of the dialect. -/
  | malformed
  /-- A whole number has more digits than the dialect admits. -/
  | longInteger
  deriving DecidableEq

/-- A bracket that is still open, with what it holds so far. -/
inductive Frame where
  /-- The items of an array, in reverse. -/
  | array (items : List Json)
  /-- The members of an object, and the key whose value is awaited. -/
  | object (fields : List (Text × Json)) (key : Text)

/-- **What may come next**, under a stack of open brackets. -/
inductive State where
  | value (stack : List Frame)
  | firstItem (stack : List Frame)
  | firstKey (stack : List Frame)
  | key (stack : List Frame) (fields : List (Text × Json))
  | colon (stack : List Frame) (fields : List (Text × Json)) (key : Text)
  | read (stack : List Frame) (value : Json)

/-- The value of a name. -/
def nameValue? (dialect : Dialect) (name : Text) : Option Json :=
  if name = "null".toList then some .null
  else if name = "true".toList then some (.bool true)
  else if name = "false".toList then some (.bool false)
  else if !dialect.extremes then none
  else if name = "NaN".toList then some (.float .nan)
  else if name = "Infinity".toList then some (.float (.infinite false))
  else if name = "-Infinity".toList then some (.float (.infinite true))
  else none

/-- The value of a numeral with a fraction or an exponent. -/
def fractionalValue (dialect : Dialect) (negative : Bool) (digits : Text) (exponent : Int) :
    Except ParseFault Json :=
  match Binary.ofDecimal negative (wholeNumber digits) exponent with
  | .infinite negative =>
    if dialect.extremes then .ok (.float (.infinite negative)) else .error .malformed
  | number => .ok (.float number)

/-- The value of a whole numeral. -/
def wholeValue (dialect : Dialect) (negative : Bool) (digits : Text) : Except ParseFault Json :=
  if dialect.maxDigits.any (· < digits.length) then .error .longInteger else
  let magnitude := wholeNumber digits
  let bound := if negative then 0x8000000000000000 else 0xFFFFFFFFFFFFFFFF
  if dialect.wordIntegers && bound < magnitude then fractionalValue dialect negative digits 0
  else .ok (.int (if negative then -(magnitude : Int) else magnitude))

/-- The value that a single word writes, `none` for a mark. -/
def scalar? (dialect : Dialect) : Lexeme → Option (Except ParseFault Json)
  | .name text => some ((nameValue? dialect text).elim (.error .malformed) .ok)
  | .string units => some ((unitsText dialect.unpaired units []).elim (.error .malformed) (.ok ∘ .string))
  | .whole negative digits => some (wholeValue dialect negative digits)
  | .fractional negative digits exponent => some (fractionalValue dialect negative digits exponent)
  | _ => none

/-- A bracket opened on a stack, unless it is full. -/
def opened (dialect : Dialect) (stack : List Frame) (state : State) : Except ParseFault State :=
  if dialect.maxDepth.any (· ≤ stack.length) then .error .malformed else .ok state

/-- A value begun by a word. -/
def beginValue (dialect : Dialect) (stack : List Frame) (word : Lexeme) : Except ParseFault State :=
  match word with
  | .openArray => opened dialect stack (.firstItem stack)
  | .openObject => opened dialect stack (.firstKey stack)
  | word =>
    match scalar? dialect word with
    | some value => value.map (.read stack)
    | none => .error .malformed

/-- A key of an object. -/
def readKey (dialect : Dialect) (stack : List Frame) (fields : List (Text × Json)) :
    Lexeme → Except ParseFault State
  | .string units =>
    match unitsText dialect.unpaired units [] with
    | some key => .ok (.colon stack fields key)
    | none => .error .malformed
  | _ => .error .malformed

/-- **One word further.** -/
def step (dialect : Dialect) : State → Lexeme → Except ParseFault State
  | .value stack, word => beginValue dialect stack word
  | .firstItem stack, .closeArray => .ok (.read stack (.array []))
  | .firstItem stack, word => beginValue dialect (.array [] :: stack) word
  | .firstKey stack, .closeObject => .ok (.read stack (.object []))
  | .firstKey stack, word => readKey dialect stack [] word
  | .key stack fields, word => readKey dialect stack fields word
  | .colon stack fields key, .colon => .ok (.value (.object fields key :: stack))
  | .read (.array items :: stack) value, .comma => .ok (.value (.array (value :: items) :: stack))
  | .read (.array items :: stack) value, .closeArray =>
    .ok (.read stack (.array (value :: items).reverse))
  | .read (.object fields key :: stack) value, .comma => .ok (.key stack (insert key value fields))
  | .read (.object fields key :: stack) value, .closeObject =>
    .ok (.read stack (.object (insert key value fields)))
  | _, _ => .error .malformed

/-- **The value that a text writes.** -/
def parse (dialect : Dialect) (text : Text) : Except ParseFault Json := do
  match ← (lexemes text).foldlM (step dialect) (.value []) with
  | .read [] value => return value
  | _ => throw .malformed

end QuerySignature.Json
