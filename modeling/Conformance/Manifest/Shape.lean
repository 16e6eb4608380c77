import Conformance.Text.Quoted

/-!
# Shapes of documents

A shape says what a value of a document has to look like; the notations in which a document can be
written are read against it. What is read is a `Datum` of that shape.

A record is written with its keys, in any order, or as a bare list of its fields. A key that is
lacking is a fault unless the field is optional or may lack; a bare list may only leave out fields
that may lack.
-/
namespace Conformance.Manifest

mutual

inductive Shape
  | text
  | code
  | optional (shape : Shape)
  | list (shape : Shape)
  | record (name : String) (fields : List Field)

/-- A named field of a record; one that `mayLack` is an empty list then. -/
inductive Field
  | mk (name : String) (mayLack : Bool) (shape : Shape)

end

/-- What was read. -/
inductive Datum
  | text (s : String)
  | code (n : Int)
  | absent
  | list (items : List Datum)
  | record (fields : List (String × Datum))
deriving Repr

def Field.name : Field → String
  | .mk name _ _ => name

namespace Shape

/-- How a shape is named where another value was found. -/
def expected : Shape → String
  | .text => "a string"
  | .code => "i32"
  | .optional shape => shape.expected
  | .list _ => "a sequence"
  | .record name _ => "struct " ++ name

/-- What is expected of a record that is written without its keys. -/
def expectedBare (name : String) (fields : Nat) : String :=
  "struct " ++ name ++ " with " ++ toString fields ++
    (if fields = 1 then " element" else " elements")

end Shape

namespace Datum

/-- The value of a field; nothing where there is none. -/
def field (d : Datum) (name : String) : Datum :=
  match d with
  | record fields => (fields.lookup name).getD absent
  | _ => absent

def asText? : Datum → Option String
  | text s => some s
  | _ => none

def asText (d : Datum) : String :=
  d.asText?.getD ""

def items? : Datum → Option (List Datum)
  | list ds => some ds
  | _ => none

def texts? (d : Datum) : Option (List String) :=
  d.items?.map fun ds => ds.map asText

def asCode : Datum → Int
  | code n => n
  | _ => 0

def codes? (d : Datum) : Option (List Int) :=
  d.items?.map fun ds => ds.map asCode

end Datum

/-- A value that was found in a place of another shape. -/
inductive Found
  | null
  | unit
  | truth (b : Bool)
  | integer (n : Int)
  | wideInteger (n : Int)
  | decimal (text : String)
  | text (s : String)
  | list
  | record
deriving DecidableEq, Repr

def Found.description : Found → String
  | null => "null"
  | unit => "unit value"
  | truth b => "boolean `" ++ toString b ++ "`"
  | integer n => "integer `" ++ toString n ++ "`"
  | wideInteger n =>
    "integer `" ++ toString n ++ "` as " ++ (if n < 0 then "i128" else "u128")
  | decimal digits => "floating point `" ++ digits ++ "`"
  | text s => "string " ++ Text.quoted s
  | list => "sequence"
  | record => "map"

/-- How a well-formed document misses its shape. -/
inductive ShapeFault
  | wrongType (found : Found) (expected : String)
  | wrongValue (found : Found) (expected : String)
  | wrongLength (length : Nat) (expected : String)
  | missingField (name : String)
  | repeatedField (name : String)
deriving DecidableEq, Repr

def ShapeFault.message : ShapeFault → String
  | wrongType found expected =>
    "invalid type: " ++ found.description ++ ", expected " ++ expected
  | wrongValue found expected =>
    "invalid value: " ++ found.description ++ ", expected " ++ expected
  | wrongLength length expected =>
    "invalid length " ++ toString length ++ ", expected " ++ expected
  | missingField name => "missing field `" ++ name ++ "`"
  | repeatedField name => "duplicate field `" ++ name ++ "`"

/-- The codes that fit: signed integers of 32 bits. -/
def fitsCode (n : Int) : Bool :=
  -0x80000000 ≤ n && n < 0x80000000

end Conformance.Manifest
