import QuerySignature.Number.Shortest
import QuerySignature.Text.Numeral
import QuerySignature.Text.Quoted

/-!
# Json/Basic — JSON values

A `Json` value keeps what a document says: whole numbers apart from fractional ones, and the members
of an object in their order, each key once.  `get?` looks a key up, `insert` writes one (in place if
it is there, else at the end), `isEmptyValue` tells the values that stand for nothing, and `shown?`
writes a value as a message shows it.  An integer of more than `Text.maxDigits` digits is not written,
so a value that holds one has no text.
-/

namespace QuerySignature

/-- **A JSON value.** -/
inductive Json where
  | null
  | bool (value : Bool)
  | int (value : Int)
  | float (value : Binary)
  | string (text : Text)
  | array (items : List Json)
  | object (fields : List (Text × Json))

namespace Json

instance : Inhabited Json := ⟨null⟩

/-- The value under a key. -/
def lookup (key : Text) (fields : List (Text × Json)) : Option Json :=
  (fields.find? (·.1 == key)).map (·.2)

/-- The fields with the key set: in place if it is there, else at the end. -/
def insert (key : Text) (value : Json) : List (Text × Json) → List (Text × Json)
  | [] => [(key, value)]
  | (k, v) :: rest => if k = key then (k, value) :: rest else (k, v) :: insert key value rest

/-- The value under a key of an object, `none` for every other value. -/
def get? (key : Text) : Json → Option Json
  | object fields => lookup key fields
  | _ => none

/-- The members of an object. -/
def fields? : Json → Option (List (Text × Json))
  | object fields => some fields
  | _ => none

/-- The items of an array. -/
def items? : Json → Option (List Json)
  | array items => some items
  | _ => none

/-- The characters of a string. -/
def text? : Json → Option Text
  | string text => some text
  | _ => none

/-- **The value stands for nothing**: null, false, zero, or an empty string, array or object. -/
def isEmptyValue : Json → Bool
  | null => true
  | bool value => !value
  | int value => value == 0
  | float value => value.isZero
  | string text => text.isEmpty
  | array items => items.isEmpty
  | object fields => fields.isEmpty

/-! ## A value in a message -/

mutual

/-- **The value as a message shows it**: strings between quotation marks, `None`, `True` and `False`
for the constants, numbers in decimal, arrays in square and objects in curly brackets.  There is no such
text if an integer in the value is too long to be written. -/
def shown? : Json → Option Text
  | null => some "None".toList
  | bool true => some "True".toList
  | bool false => some "False".toList
  | int value => Text.decimal? value
  | float value => some (value.written "nan".toList "inf".toList)
  | string text => some (Text.quoted text)
  | array items => (shownItems? items).map fun items => '[' :: Text.joined ", ".toList items ++ [']']
  | object fields =>
    (shownFields? fields).map fun fields => '\x7b' :: Text.joined ", ".toList fields ++ ['\x7d']

/-- The items of an array, each as a message shows it. -/
def shownItems? : List Json → Option (List Text)
  | [] => some []
  | item :: rest => (shown? item).bind fun item => (shownItems? rest).map (item :: ·)

/-- The members of an object, each as a message shows it. -/
def shownFields? : List (Text × Json) → Option (List Text)
  | [] => some []
  | (key, value) :: rest =>
    (shown? value).bind fun value =>
      (shownFields? rest).map ((Text.quoted key ++ ": ".toList ++ value) :: ·)

end

/-- **The value as text**: a string is itself, anything else as a message shows it. -/
def asText? : Json → Option Text
  | string text => some text
  | value => shown? value

end Json

end QuerySignature
