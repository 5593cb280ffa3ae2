import Mathlib
import TrackTimer.Json.Reader
import TrackTimer.Proofs.Binary.Canonical
import TrackTimer.Proofs.Json.Records

/-! # Decoding what was encoded

A value that is encoded and decoded again is the same, bit for bit. A binary32 number stands in the
encoding as the binary64 number of its size, and comes back by `Binary.narrow_widen`. A record is
encoded as an object that has all of its fields, so no standard value steps in for one that is lost.
-/

namespace TrackTimer

namespace Json

/-! ## Plain values -/

@[simp] theorem toFloat?_ofFloat (x : Float) : toFloat? (.ofFloat x) = some x := rfl

@[simp] theorem toWord?_ofWord (n : UInt32) : toWord? (.ofWord n) = some n := by
  show (if n.toNat < 2 ^ 32 then some (UInt32.ofNat n.toNat) else none) = some n
  rw [if_pos n.toNat_lt, UInt32.ofNat_toNat]

@[simp] theorem toBool?_bool (b : Bool) : toBool? (.bool b) = some b := rfl

theorem toFloat32?_ofFloat32 {x : Float32} (finite : x.isFinite = true) :
    toFloat32? (.ofFloat32 x) = some x := by
  have bounded : x.isInf = false := by
    change x.toModel.unpack.isFinite = true at finite
    show x.toModel.unpack.isInf = false
    cases unpacked : x.toModel.unpack with
    | infinity sign =>
      rw [unpacked] at finite
      cases finite
    | _ => rfl
  show Number.finite? (Binary.narrow (Binary.widen x)) = some x
  rw [Binary.narrow_widen, Number.finite?, bounded]
  rfl

/-- A value that may be absent is told from an absent one, as long as it is not written as null. -/
theorem toOption?_ofOption {α : Type} {read? : Json → Option α} {write : α → Json}
    (back : ∀ a, read? (write a) = some a) (present : ∀ a, write a ≠ .null) (o : Option α) :
    toOption? read? (ofOption write o) = some o := by
  cases o with
  | none => rfl
  | some a =>
    rw [ofOption, toOption?, back]
    · rfl
    · exact present a

/-! ## Lists -/

theorem mapM_map_of_back {α : Type} {read? : Json → Option α} {write : α → Json}
    {as : List α} (back : ∀ a ∈ as, read? (write a) = some a) :
    (as.map write).mapM read? = some as := by
  induction as with
  | nil => rfl
  | cons a as ih =>
    obtain ⟨first, rest⟩ := List.forall_mem_cons.mp back
    simp [first, ih rest]

end Json

open Json (Record)

/-! ## Points, circles and fixes -/

theorem Point.ofJson?_toJson (p : Point) : ofJson? p.toJson = some p := by
  simp [ofJson?, toJson, Record.ofJson?_ofFields, Record.required?]

theorem TimedPoint.ofJson?_toJson (p : TimedPoint) : ofJson? p.toJson = some p := by
  simp [ofJson?, toJson, Record.ofJson?_ofFields, Record.required?, Point.ofJson?_toJson]

theorem Circle.ofJson?_toJson {c : Circle} (finite : c.radius.isFinite = true) :
    ofJson? c.toJson = some c := by
  simp [ofJson?, toJson, Record.ofJson?_ofFields, Record.required?, Point.ofJson?_toJson,
    Json.toFloat32?_ofFloat32 finite]

theorem Quality.ofJson?_toJson (q : Quality) : ofJson? q.toJson = some q := by
  cases q <;> rfl

theorem Fix.ofJson?_toJson {f : Fix} (finite : f.speed.isFinite = true) :
    ofJson? f.toJson = some f := by
  have millis := Json.toOption?_ofOption Json.toWord?_ofWord (by simp [Json.ofWord]) f.millis
  simp [ofJson?, toJson, Record.ofJson?_ofFields, Record.required?, Record.optional?,
    Point.ofJson?_toJson, Quality.ofJson?_toJson, Json.toFloat32?_ofFloat32 finite, millis]

/-! ## Tracks and configurations -/

theorem Waypoints.ofJson?_toJson (w : Waypoints) : ofJson? w.toJson = some w := by
  have points : (w.toList.map Point.toJson).mapM Point.ofJson? = some w.toList :=
    Json.mapM_map_of_back fun p _ => p.ofJson?_toJson
  rw [toJson, ofJson?, points]
  show (if h : w.toList.length = maxSectors then _ else none) = some w
  rw [dif_pos w.length_toList]
  rfl

theorem Track.ofJson?_toJson (t : Track) : ofJson? t.toJson = some t := by
  simp [ofJson?, toJson, Record.ofJson?_ofFields, Record.required?, Record.defaulted?,
    Point.ofJson?_toJson, Waypoints.ofJson?_toJson]

theorem TrackConfig.ofJson?_toJson {c : TrackConfig} (finite : c.radiusDegrees.isFinite = true) :
    ofJson? c.toJson = some c := by
  simp [ofJson?, toJson, Record.ofJson?_ofFields, Record.defaulted?, Track.ofJson?_toJson,
    Json.toFloat32?_ofFloat32 finite]

/-! ## Values whose numbers are all finite -/

def Point.IsFinite (p : Point) : Prop := p.latitude.isFinite = true ∧ p.longitude.isFinite = true

def TimedPoint.IsFinite (p : TimedPoint) : Prop := p.point.IsFinite

def Circle.IsFinite (c : Circle) : Prop := c.center.IsFinite ∧ c.radius.isFinite = true

def Fix.IsFinite (f : Fix) : Prop := f.point.IsFinite ∧ f.speed.isFinite = true

def Track.IsFinite (t : Track) : Prop :=
  t.start.IsFinite ∧ t.finish.IsFinite ∧ ∀ p ∈ t.waypoints.toList, p.IsFinite

def TrackConfig.IsFinite (c : TrackConfig) : Prop :=
  c.track.IsFinite ∧ c.radiusDegrees.isFinite = true

/-- Whether decoding undoes encoding on the values that are fit for it. -/
structure Json.Undoes {α : Type} (decode? : Json → Option α) (encode : α → Json)
    (IsFit : α → Prop) : Prop where
  back : ∀ a, IsFit a → decode? (encode a) = some a
  /-- What a text was decoded to is decoded to the same again. -/
  again : ∀ care text a, (Json.read? care text >>= decode?) = some a → IsFit a →
    decode? (encode a) = Json.read? care text >>= decode?

theorem Json.undoes_of_back {α : Type} {decode? : Json → Option α} {encode : α → Json}
    {IsFit : α → Prop} (back : ∀ a, IsFit a → decode? (encode a) = some a) :
    Undoes decode? encode IsFit where
  back := back
  again care text a decoded fit := by rw [back a fit, decoded]

/-- Whatever is written as a record, or is part of one, is read as what it was, as long as its numbers
are finite. -/
theorem decoding_undoes_encoding :
    Json.Undoes TrackConfig.ofJson? TrackConfig.toJson TrackConfig.IsFinite ∧
      Json.Undoes Track.ofJson? Track.toJson Track.IsFinite ∧
      Json.Undoes Point.ofJson? Point.toJson Point.IsFinite ∧
      Json.Undoes TimedPoint.ofJson? TimedPoint.toJson TimedPoint.IsFinite ∧
      Json.Undoes Circle.ofJson? Circle.toJson Circle.IsFinite ∧
      Json.Undoes Fix.ofJson? Fix.toJson Fix.IsFinite ∧
      Json.Undoes Quality.ofJson? Quality.toJson fun _ => True := by
  -- Only what is narrowed again needs to be finite; a binary64 number is kept whatever it is.
  refine ⟨?_, ?_, ?_, ?_, ?_, ?_, ?_⟩ <;> apply Json.undoes_of_back
  · exact fun c finite => TrackConfig.ofJson?_toJson finite.2
  · exact fun t _ => t.ofJson?_toJson
  · exact fun p _ => p.ofJson?_toJson
  · exact fun p _ => p.ofJson?_toJson
  · exact fun c finite => Circle.ofJson?_toJson finite.2
  · exact fun f finite => Fix.ofJson?_toJson finite.2
  · exact fun q _ => q.ofJson?_toJson

/-- The least number of binary32 comes back with its sign, and so does a fix without a time. -/
example :
    let fix : Fix := ⟨⟨-0.0, 9.0⟩, .differential, -1.401298464324817e-45, none⟩
    Fix.ofJson? fix.toJson = some fix := by
  decide +kernel

end TrackTimer
