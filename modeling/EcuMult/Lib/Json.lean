import EcuMult.Lib.Text
import Mathlib.Data.Rat.Defs

/-!
# JSON documents

A program takes documents apart with a library, and what the library makes of
a text is not for us to say: its calls are the fields of `JsonLibrary`, over
any type of documents. A call that throws returns what the exception says.
Documents that a program builds and prints are values of `Json`.

`Json.library` makes a library of `Json` and any parser, for examples.
-/

namespace EcuMult.Lib

/-- A document as a program builds it. -/
inductive Json
  | null
  | bool (b : Bool)
  | number (q : ℚ)
  | string (t : Text)
  | array (items : List Json)
  | object (fields : List (Text × Json))

/-- Of calls in a row, the first went well, and then the rest. -/
theorem ok_of_bind {ε α β : Type} {x : Except ε α} {f : α → Except ε β} {b : β}
    (h : x >>= f = .ok b) : ∃ a, x = .ok a ∧ f a = .ok b := by
  cases x with
  | error e => cases h
  | ok a => exact ⟨a, rfl, h⟩

/-- The calls by which a program reads documents. -/
structure JsonLibrary (Doc : Type) where
  parse : Text → Except Text Doc
  /-- What a document that nothing was assigned to is. -/
  null : Doc
  contains : Doc → Text → Bool
  /-- `doc[key]`. -/
  index : Doc → Text → Except Text Doc
  /-- `doc.value(key, fallback)`, with a document to fall back to. -/
  value : Doc → Text → Doc → Except Text Doc
  /-- And with a string, or a number. -/
  valueString : Doc → Text → Text → Except Text Text
  valueInt : Doc → Text → Int → Except Text Int
  /-- `doc.get<float>()` and `doc.get<bool>()`. -/
  getFloat : Doc → Except Text ℚ
  getBool : Doc → Except Text Bool

namespace Json

variable {α : Type}

def ofString (s : String) : Json := .string s.toList

/-- A field of an object. -/
def field (key : String) (value : Json) : Text × Json := (key.toList, value)

/-! ## A library of these documents -/

def typeError (what : String) : Except Text α := .error ("type error: " ++ what).toList

def getString : Json → Except Text Text
  | .string t => .ok t
  | _ => typeError "not a string"

/-- A Boolean is a number to whoever asks for one. -/
def getNumber : Json → Except Text ℚ
  | .number q => .ok q
  | .bool b => .ok (if b then 1 else 0)
  | _ => typeError "not a number"

def getBool : Json → Except Text Bool
  | .bool b => .ok b
  | _ => typeError "not a Boolean"

/-- What is made of the field, if there is one; only objects have fields. -/
def valueWith (get : Json → Except Text α) (doc : Json) (key : Text) (fallback : α) :
    Except Text α :=
  match doc with
  | .object fields =>
    match fields.lookup key with
    | some value => get value
    | none => .ok fallback
  | _ => typeError "not an object"

def library (parse : Text → Except Text Json) : JsonLibrary Json where
  parse := parse
  null := .null
  contains
    | .object fields, key => (fields.lookup key).isSome
    | _, _ => false
  index doc key := valueWith .ok doc key .null
  value := valueWith .ok
  valueString := valueWith getString
  valueInt := valueWith fun doc => (getNumber doc).map fun q => q.num.tdiv q.den
  getFloat := getNumber
  getBool := getBool

end Json

end EcuMult.Lib
