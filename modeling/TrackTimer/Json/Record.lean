import TrackTimer.Json.Value

/-! # Records in JSON

A record is written as an object with its fields by name, or as an array with its fields in the
order of their declaration. In an object the order of the members does not matter, members with
other names are passed over, and a field may be given once at most. An array has no items beyond
the last field. What a field that is not given means is for the field to say.
-/

namespace TrackTimer.Json

/-! ## Plain values -/

def toFloat? : Json → Option Float
  | .number (.natural n) => some (.ofNat n)
  | .number (.negative n) => some (-.ofNat n)
  | .number (.real wide _) => wide
  | _ => none

def toFloat32? : Json → Option Float32
  | .number (.natural n) => some (.ofNat n)
  | .number (.negative n) => some (-.ofNat n)
  | .number (.real _ narrow) => narrow
  | _ => none

def toWord? : Json → Option UInt32
  | .number (.natural n) => if n < Nat.pow 2 32 then some (.ofNat n) else none
  | _ => none

def toBool? : Json → Option Bool
  | .bool b => some b
  | _ => none

/-- The value that is absent where null is given. -/
def toOption? {α : Type} (read? : Json → Option α) : Json → Option (Option α)
  | .null => some none
  | value => (read? value).map some

/-- A value as it is written that may be absent. -/
def ofOption {α : Type} (write : α → Json) : Option α → Json
  | none => .null
  | some a => write a

def ofFloat (x : Float) : Json := .number (.ofFloat x)

/-- A binary32 number as a value, which is the binary64 number of the same size. -/
def ofFloat32 (x : Float32) : Json := ofFloat (Binary.widen x)

def ofWord (n : UInt32) : Json := .number (.natural n.toNat)

/-! ## Records -/

/-- The fields of a record that are given. -/
structure Record where
  /-- Whether the fields are given by name. -/
  byName : Bool
  fields : List (String × Json)

namespace Record

/-- The members with one of the given names. There is no answer if a key is no text. -/
def known? (names : List String) : List (Spelling × Json) → Option (List (String × Json))
  | [] => some []
  | (none, _) :: _ => none
  | (some key, value) :: rest => do
    let rest ← known? names rest
    return if names.contains key then (key, value) :: rest else rest

def distinct : List (String × Json) → Bool
  | [] => true
  | (name, _) :: rest => !(rest.any fun field => field.1 == name) && distinct rest

def ofJson? (names : List String) : Json → Option Record
  | .object members => do
    let fields ← known? names members
    if distinct fields then some ⟨true, fields⟩ else none
  | .array items => if items.length ≤ names.length then some ⟨false, names.zip items⟩ else none
  | _ => none

def find? (r : Record) (name : String) : Option Json :=
  (r.fields.find? fun field => field.1 == name).map (·.2)

variable {α : Type}

/-- Reads a field that has to be given. -/
def required? (r : Record) (name : String) (read? : Json → Option α) : Option α :=
  r.find? name >>= read?

/-- Reads a field that has a value of its own when it is not given. -/
def defaulted? (r : Record) (name : String) (standard : α) (read? : Json → Option α) : Option α :=
  match r.find? name with
  | some value => read? value
  | none => some standard

/-- Reads a field that may be absent: by name it need not be given, in order it has to be. -/
def optional? (r : Record) (name : String) (read? : Json → Option α) : Option (Option α) :=
  match r.find? name with
  | some value => toOption? read? value
  | none => if r.byName then some none else none

end Record

def ofFields (fields : List (String × Json)) : Json :=
  .object (fields.map fun field => (some field.1, field.2))

end TrackTimer.Json
