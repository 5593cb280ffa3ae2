import TrackTimer.Json.Token

/-! # Reading JSON

Tokens are put together by a machine with a stack of the arrays and objects that are open. It takes
one token at a time, so a text may be nested as deeply as it likes.
-/

namespace TrackTimer.Json

/-- An array or object that is open, its finished parts last one first. -/
inductive Frame where
  | array (items : List Json)
  /-- An object with the key whose value is being read. -/
  | object (members : List (Spelling × Json)) (key : Spelling)

/-- What the machine waits for, and what is open around it. -/
inductive Reader where
  | atValue (around : List Frame)
  /-- The first item of an array, or its end. -/
  | atFirstItem (around : List Frame)
  /-- The first key of an object, or its end. -/
  | atFirstKey (around : List Frame)
  | atKey (members : List (Spelling × Json)) (around : List Frame)
  /-- The colon behind a key. -/
  | atColon (members : List (Spelling × Json)) (key : Spelling) (around : List Frame)
  /-- Whatever may follow a finished value. -/
  | after (value : Json) (around : List Frame)

namespace Reader

def begin? (around : List Frame) : Token → Option Reader
  | .scalar value => some (.after value around)
  | .openArray => some (.atFirstItem around)
  | .openObject => some (.atFirstKey around)
  | _ => none

def follow? (value : Json) : List Frame → Token → Option Reader
  | .array items :: around, .comma => some (.atValue (.array (value :: items) :: around))
  | .array items :: around, .closeArray =>
    some (.after (.array (value :: items).reverse) around)
  | .object members key :: around, .comma => some (.atKey ((key, value) :: members) around)
  | .object members key :: around, .closeObject =>
    some (.after (.object ((key, value) :: members).reverse) around)
  | _, _ => none

def step? : Reader → Token → Option Reader
  | .atValue around, token => begin? around token
  | .atFirstItem around, .closeArray => some (.after (.array []) around)
  | .atFirstItem around, token => begin? (.array [] :: around) token
  | .atFirstKey around, .closeObject => some (.after (.object []) around)
  | .atFirstKey around, .scalar (.string key) => some (.atColon [] key around)
  | .atKey members around, .scalar (.string key) => some (.atColon members key around)
  | .atColon members key around, .colon => some (.atValue (.object members key :: around))
  | .after value around, token => follow? value around token
  | _, _ => none

/-- The value, once there are no more tokens. -/
def finish? : Reader → Option Json
  | .after value [] => some value
  | _ => none

end Reader

/-- The value that a text denotes, if it is well-formed JSON. -/
def read? (care : Care) (bytes : List UInt8) : Option Json := do
  let tokens ← tokens? care bytes
  let reader ← tokens.foldlM Reader.step? (.atValue [])
  reader.finish?

end TrackTimer.Json
