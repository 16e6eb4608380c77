import Conformance.Host.Awk.Value

/-!
# Arrays

An array keeps its entries in buckets by their keys, which are texts; a key that a whole number
gives is known as such. Going through an array follows the buckets. While all keys are numbers a
bucket is in falling order; from the first key on that is not, an entry comes to the front of its
bucket whenever it is looked for by its text.
-/
namespace Conformance.Host.Awk

/-- A key: the text, and whether a whole number gave it. -/
structure Key where
  text : Chars
  counted : Bool := false

structure Entry where
  key : Chars
  counted : Bool
  value : Value

/-- How many buckets an empty array has. -/
def firstBuckets : Nat := 64

/-- How many entries a bucket may have on average. -/
def bucketLoad : Nat := 12

structure Table where
  buckets : Array (List Entry) := Array.replicate firstBuckets []
  size : Nat := 0
  /-- Whether all keys that were looked for are numbers. -/
  counted : Bool := true

instance : Inhabited Table := ⟨{}⟩

/-- The number of a key: every character is mixed in by a product with a prime. -/
def keyHash (s : Chars) : UInt32 :=
  s.foldl (fun h c => (h ^^^ c.toNat.toUInt32) * 0x01000193) 0x811c9dc5

namespace Table

def place (t : Table) (key : Chars) : Nat :=
  (keyHash key).toNat % max 1 t.buckets.size

/-- Where a number stands in the falling order of a bucket. -/
def rank (t : Table) (e : Entry) : Nat :=
  ((Chars.int? e.key).getD 0 % (t.buckets.size : Int)).toNat

/-- With texts as keys from now on. -/
def named (t : Table) : Table :=
  if t.counted then
    { t with
      counted := false
      buckets := t.buckets.map fun es => es.reverse.mergeSort fun a b => t.rank b ≤ t.rank a }
  else t

/-- Ready for a key to be looked for. -/
def readyFor (t : Table) (k : Key) : Table :=
  if k.counted then t else t.named

/-- The value of a key, and the array after it was looked for. -/
def find? (t : Table) (k : Key) : Option Value × Table :=
  let t := t.readyFor k
  let n := t.place k.text
  let es := t.buckets[n]?.getD []
  match es.find? (·.key == k.text) with
  | none => (none, t)
  | some e =>
    if t.counted || (k.counted && e.counted) then (some e.value, t)
    else
      let e' := { e with counted := e.counted || k.counted }
      let es' := e' :: es.filter (·.key != k.text)
      (some e.value, { t with buckets := t.buckets.modify n fun _ => es' })

/-- With twice as many buckets. -/
def doubled (t : Table) : Table :=
  let t' : Table := { t with buckets := t.buckets ++ t.buckets }
  { t' with
    buckets := t'.buckets.mapIdx fun i es => es.filter fun e => t'.place e.key = i }

/-- With a new value of a key. -/
def insert (t : Table) (k : Key) (v : Value) : Table :=
  match t.find? k with
  | (some _, t) =>
    { t with
      buckets := t.buckets.modify (t.place k.text) fun es =>
        es.map fun e => if e.key == k.text then { e with value := v } else e }
  | (none, t) =>
    let t := if bucketLoad * t.buckets.size < t.size + 1 then t.doubled else t
    { t with
      size := t.size + 1
      buckets := t.buckets.modify (t.place k.text) fun es =>
        { key := k.text, counted := k.counted, value := v } :: es }

def erase (t : Table) (k : Key) : Table :=
  match t.find? k with
  | (none, t) => t
  | (some _, t) =>
    if t.size = 1 then {}
    else
      { t with
        size := t.size - 1
        buckets := t.buckets.modify (t.place k.text) fun es => es.filter (·.key != k.text) }

/-- The keys in the order in which they are gone through. -/
def keys (t : Table) : List Chars × Table :=
  let t := t.named
  (t.buckets.toList.flatMap fun es => es.map (·.key), t)

/-- The array of some values, numbered from one. -/
def ofValues (vs : List Value) : Table :=
  (vs.zipIdx 1).foldl (fun t (v, i) => t.insert { text := Chars.ofNat i, counted := true } v) {}

end Table
end Conformance.Host.Awk
