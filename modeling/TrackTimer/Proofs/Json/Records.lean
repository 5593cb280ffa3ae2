import Mathlib.Data.List.Nodup
import TrackTimer.Codec.Track
import TrackTimer.Replay.LogLine

/-! # The forms of a record

A record can be given by name, in any order and among members that mean nothing, or in order, and a
field can be left to its standard value. What a decoder makes of a record depends on the values of its
fields alone (`Json.ReadsBy`), so the two forms come to the same. The decoders are read field by field
for this, as they are written, and `agrees_of_readsBy` says once what follows for all of them.
-/

namespace TrackTimer

namespace Json

/-! ## Fields -/

/-- A field of a record: what is read from its value, and the value that it has when it is not given,
if it need not be. -/
structure Field where
  name : String
  Value : Type
  read? : Json → Option Value
  standard : Option Value

namespace Field

def required {α : Type} (name : String) (read? : Json → Option α) : Field := ⟨name, α, read?, none⟩

def defaulted {α : Type} (name : String) (standard : α) (read? : Json → Option α) : Field :=
  ⟨name, α, read?, some standard⟩

/-- The value of a field in a record. -/
def value? (f : Field) (r : Record) : Option f.Value :=
  match r.find? f.name with
  | some json => f.read? json
  | none => f.standard

/-- Whether the standard value of a field, if it has one, can also be given. -/
def IsWritable (f : Field) : Prop :=
  ∀ standard, f.standard = some standard → ∃ json, f.read? json = some standard

theorem isWritable_required {α : Type} {name : String} {read? : Json → Option α} :
    (required name read?).IsWritable := nofun

theorem isWritable_defaulted {α : Type} {name : String} {standard : α} {read? : Json → Option α}
    (json : Json) (written : read? json = some standard) :
    (defaulted name standard read?).IsWritable :=
  fun _ same => ⟨json, written.trans same⟩

theorem value?_of_find? {f : Field} {r other : Record} (same : r.find? f.name = other.find? f.name) :
    f.value? r = f.value? other := by
  rw [value?, value?, same]

theorem value?_of_given {f : Field} {r : Record} {json : Json} (given : r.find? f.name = some json) :
    f.value? r = f.read? json := by
  rw [value?, given]

theorem value?_of_omitted {f : Field} {r : Record} (omitted : r.find? f.name = none) :
    f.value? r = f.standard := by
  rw [value?, omitted]

end Field

def names (fields : List Field) : List String := fields.map (·.name)

/-! ## What is given -/

namespace Record

variable {α : Type} {known : List String} {members others : List (Spelling × Json)}
variable {fields : List (String × Json)} {byName : Bool} {name other : String} {json : Json}

theorem required?_eq (r : Record) (name : String) (read? : Json → Option α) :
    r.required? name read? = (Field.required name read?).value? r := by
  show r.find? name >>= read? = match r.find? name with | some json => read? json | none => none
  cases r.find? name <;> rfl

theorem defaulted?_eq (r : Record) (name : String) (standard : α) (read? : Json → Option α) :
    r.defaulted? name standard read? = (Field.defaulted name standard read?).value? r := rfl

/-- The members whose key is one of the given names. -/
def given (known : List String) (members : List (Spelling × Json)) : List (String × Json) :=
  members.filterMap fun member =>
    member.1.bind fun key => if known.contains key then some (key, member.2) else none

theorem given_append (known : List String) (members others : List (Spelling × Json)) :
    given known (members ++ others) = given known members ++ given known others :=
  List.filterMap_append

theorem given_perm (perm : members.Perm others) : (given known members).Perm (given known others) :=
  perm.filterMap _

theorem given_cons_of_mem (listed : name ∈ known) (json : Json)
    (members : List (Spelling × Json)) :
    given known ((some name, json) :: members) = (name, json) :: given known members := by
  simp [given, listed]

theorem mem_given : (name, json) ∈ given known members ↔
    name ∈ known ∧ (some name, json) ∈ members := by
  simp only [given, List.mem_filterMap, Prod.exists, Option.bind_eq_some_iff]
  constructor
  · rintro ⟨key, value, member, name, rfl, kept⟩
    obtain ⟨listed, same⟩ := Option.ite_none_right_eq_some.mp kept
    obtain ⟨rfl, rfl⟩ := Prod.mk.inj (Option.some.inj same)
    exact ⟨List.contains_iff_mem.mp listed, member⟩
  · rintro ⟨listed, member⟩
    exact ⟨some name, json, member, name, rfl, by simp [listed]⟩

/-- A name is given as often as it is a key. -/
theorem count_given (listed : name ∈ known) (members : List (Spelling × Json)) :
    ((given known members).map (·.1)).count name = (members.map (·.1)).count (some name) := by
  induction members with
  | nil => rfl
  | cons member members ih =>
    obtain ⟨_ | key, json⟩ := member
    · simpa [given] using ih
    · -- A member whose key is the name counts on either side, and any other on neither.
      by_cases same : key = name
      · subst same
        rw [given_cons_of_mem listed]
        simp [ih]
      · by_cases kept : key ∈ known
        · rw [given_cons_of_mem kept]
          simp [ih, same]
        · simpa [given, kept, same] using ih

theorem known?_eq (known : List String) (members : List (Spelling × Json)) :
    known? known members =
      if members.all (·.1.isSome) then some (given known members) else none := by
  induction members with
  | nil => rfl
  | cons member members ih =>
    obtain ⟨_ | key, json⟩ := member
    · -- One key that is no text spoils the object, whatever comes after it.
      rfl
    · rw [known?, ih]
      cases spelt : members.all (·.1.isSome) with
      | false => simp [spelt]
      | true =>
        by_cases kept : key ∈ known <;> simp [given, spelt, kept]

theorem distinct_iff : distinct fields = true ↔ (fields.map (·.1)).Nodup := by
  induction fields with
  | nil => simp [distinct]
  | cons field fields ih =>
    rw [distinct, Bool.and_eq_true, ih, List.map_cons, List.nodup_cons]
    apply and_congr_left'
    simp only [Bool.not_eq_true', List.any_eq_false, beq_iff_eq, List.mem_map, not_exists, not_and]

theorem distinct_of_perm {others : List (String × Json)} (perm : fields.Perm others) :
    distinct fields = distinct others := by
  rw [Bool.eq_iff_iff, distinct_iff, distinct_iff]
  exact (perm.map _).nodup_iff

/-- Whether members make a record: all keys are text, and the known ones are distinct. -/
def isFit (known : List String) (members : List (Spelling × Json)) : Bool :=
  members.all (·.1.isSome) && distinct (given known members)

theorem ofJson?_object (known : List String) (members : List (Spelling × Json)) :
    ofJson? known (.object members) =
      if isFit known members then some ⟨true, given known members⟩ else none := by
  rw [ofJson?, known?_eq, isFit]
  cases members.all (·.1.isSome) <;> rfl

theorem nodup_of_isFit (fit : isFit known members = true) :
    ((given known members).map (·.1)).Nodup :=
  distinct_iff.mp (Bool.and_eq_true_iff.mp fit).2

theorem isFit_of_perm (perm : members.Perm others) : isFit known members = isFit known others := by
  rw [isFit, isFit, perm.all_eq, distinct_of_perm (given_perm perm)]

/-- A member with a known key can be added, unless the key is there already. -/
theorem isFit_cons (listed : name ∈ known) (json : Json) (members : List (Spelling × Json)) :
    isFit known ((some name, json) :: members) =
      (decide (some name ∉ members.map (·.1)) && isFit known members) := by
  have repeated : name ∈ (given known members).map (·.1) ↔ some name ∈ members.map (·.1) := by
    rw [← List.count_pos_iff, count_given listed, List.count_pos_iff]
  rw [Bool.eq_iff_iff, isFit, isFit, given_cons_of_mem listed]
  simp only [Bool.and_eq_true, distinct_iff, List.map_cons, List.nodup_cons, repeated,
    decide_eq_true_eq, List.all_cons, Option.isSome_some, Bool.true_and]
  exact and_left_comm

/-- Distinct fields with known names are a record as they are. -/
theorem ofJson?_ofFields (listed : ∀ field ∈ fields, field.1 ∈ known)
    (distinct : (fields.map (·.1)).Nodup) : ofJson? known (ofFields fields) = some ⟨true, fields⟩ := by
  have same : given known (fields.map fun field => (some field.1, field.2)) = fields := by
    induction fields with
    | nil => rfl
    | cons field fields ih =>
      obtain ⟨first, rest⟩ := List.forall_mem_cons.mp listed
      rw [List.map_cons, given_cons_of_mem first, ih rest (List.nodup_cons.mp distinct).2]
  have spelt : (fields.map fun field => ((some field.1, field.2) : Spelling × Json)).all
      (·.1.isSome) = true := by
    simp
  rw [ofFields, ofJson?_object, isFit, same, spelt, distinct_iff.mpr distinct]
  rfl

/-- So an array is the record of as many fields. -/
theorem ofJson?_zip (distinct : known.Nodup) {items : List Json}
    (short : items.length ≤ known.length) :
    ofJson? known (ofFields (known.zip items)) = some ⟨true, known.zip items⟩ := by
  have keys : (known.zip items).map (·.1) = known.take items.length := by
    rw [List.zip_eq_zip_take_min, Nat.min_eq_right short, List.take_length]
    exact List.map_fst_zip (Nat.le_of_eq (List.length_take_of_le short))
  apply ofJson?_ofFields
  · intro field member
    exact (List.of_mem_zip member).1
  · rw [keys]
    exact distinct.sublist (List.take_sublist _ _)

/-! ## Finding a field -/

@[simp] theorem find?_cons_self : find? ⟨byName, (name, json) :: fields⟩ name = some json := by
  simp [find?]

@[simp] theorem find?_cons_of_ne (apart : name ≠ other) :
    find? ⟨byName, (name, json) :: fields⟩ other = find? ⟨byName, fields⟩ other := by
  simp [find?, apart]

theorem find?_eq_some_iff (distinct : (fields.map (·.1)).Nodup) :
    find? ⟨byName, fields⟩ name = some json ↔ (name, json) ∈ fields := by
  induction fields with
  | nil => simp [find?]
  | cons field fields ih =>
    obtain ⟨key, value⟩ := field
    rw [List.map_cons, List.nodup_cons] at distinct
    rw [List.mem_cons, Prod.mk.injEq]
    by_cases same : key = name
    · -- The first field of the name is found, and being distinct it is the only one.
      subst same
      have absent : (key, json) ∉ fields := fun listed =>
        distinct.1 (List.mem_map.mpr ⟨_, listed, rfl⟩)
      rw [find?_cons_self]
      simp [absent, eq_comm]
    · rw [find?_cons_of_ne same, ih distinct.2]
      simp [Ne.symm same]

theorem find?_eq_none_iff :
    find? ⟨byName, fields⟩ name = none ↔ name ∉ fields.map (·.1) := by
  simp [find?, List.find?_eq_none]
  grind

theorem find?_of_perm {others : List (String × Json)} (perm : fields.Perm others)
    (distinct : (fields.map (·.1)).Nodup) (name : String) :
    find? ⟨byName, fields⟩ name = find? ⟨byName, others⟩ name := by
  apply Option.ext
  intro json
  have distinctOthers : (others.map (·.1)).Nodup := (perm.map _).nodup_iff.mp distinct
  rw [find?_eq_some_iff distinct, find?_eq_some_iff distinctOthers, perm.mem_iff]

/-- What is not a key is not found. -/
theorem find?_of_not_mem (absent : some name ∉ members.map (·.1)) :
    find? ⟨byName, given known members⟩ name = none := by
  rw [find?_eq_none_iff]
  intro listed
  obtain ⟨⟨key, json⟩, member, rfl⟩ := List.mem_map.mp listed
  exact absent (List.mem_map.mpr ⟨_, (mem_given.mp member).2, rfl⟩)

end Record

/-! ## Decoders -/

/-- A decoder that sees a record by the values of its fields, and fails if one of them has none. -/
structure ReadsBy {α : Type} (fields : List Field) (build? : Record → Option α) : Prop where
  same : ∀ r other, (∀ f ∈ fields, f.value? r = f.value? other) → build? r = build? other
  unread : ∀ r, ∀ f ∈ fields, f.value? r = none → build? r = none

section

variable {α : Type} {fields : List Field} {build? : Record → Option α}

theorem readsBy_nil (a : Option α) : ReadsBy [] fun _ => a :=
  ⟨fun _ _ _ => rfl, nofun⟩

/-- Reading a field and going on with its value. -/
theorem ReadsBy.cons {f : Field} {build? : f.Value → Record → Option α}
    (reads : ∀ a, ReadsBy fields (build? a)) :
    ReadsBy (f :: fields) fun r => f.value? r >>= fun a => build? a r where
  same r other same := by
    obtain ⟨first, rest⟩ := List.forall_mem_cons.mp same
    rw [first]
    exact congrArg _ (funext fun a => (reads a).same r other rest)
  unread r g listed unread := by
    rcases List.mem_cons.mp listed with rfl | later
    · rw [unread]
      rfl
    · cases f.value? r with
      | none => rfl
      | some a => exact (reads a).unread r g later unread

/-- A decoder for which the forms of a record agree. -/
structure Agrees (fields : List Field) (decode? : Json → Option α) : Prop where
  /-- The order of the members of an object does not matter. -/
  order : ∀ members others, members.Perm others →
    decode? (.object members) = decode? (.object others)
  /-- Nor do members with other keys, whatever their values are. -/
  unknown : ∀ extra members, (∀ member ∈ extra, ∃ key, member.1 = some key ∧ key ∉ names fields) →
    decode? (.object (extra ++ members)) = decode? (.object members)
  /-- A key of a field is not given twice. -/
  repeated : ∀ members, ∀ f ∈ fields, 2 ≤ (members.map (·.1)).count (some f.name) →
    decode? (.object members) = none
  /-- A value can be given in any form that is read as the same. -/
  nested : ∀ members, ∀ f ∈ fields, ∀ json other, f.read? json = f.read? other →
    decode? (.object ((some f.name, json) :: members)) =
      decode? (.object ((some f.name, other) :: members))
  /-- A field with a standard value that is not given is as good as given with that value, -/
  omitted : ∀ members, ∀ f ∈ fields, some f.name ∉ members.map (·.1) →
    ∀ standard json, f.standard = some standard → f.read? json = some standard →
      decode? (.object members) = decode? (.object ((some f.name, json) :: members))
  /-- and there is a way to give it. -/
  writable : ∀ f ∈ fields, f.IsWritable
  /-- Any other field has to be given. -/
  required : ∀ members, ∀ f ∈ fields, some f.name ∉ members.map (·.1) → f.standard = none →
    decode? (.object members) = none
  /-- An array is the object of as many fields, the first ones in order. -/
  inOrder : ∀ items, items.length ≤ fields.length →
    decode? (.array items) = decode? (ofFields ((names fields).zip items))
  /-- It has no more items than there are fields. -/
  surplus : ∀ items, fields.length < items.length → decode? (.array items) = none

variable {known : List String} {members others : List (Spelling × Json)} {f : Field} {json : Json}

theorem name_mem_names (listed : f ∈ fields) : f.name ∈ names fields :=
  List.mem_map.mpr ⟨f, listed, rfl⟩

theorem decode?_of_perm (reads : ReadsBy fields build?) (perm : members.Perm others) :
    (Record.ofJson? (names fields) (.object members) >>= build?) =
      (Record.ofJson? (names fields) (.object others) >>= build?) := by
  rw [Record.ofJson?_object, Record.ofJson?_object, Record.isFit_of_perm perm]
  cases fit : Record.isFit (names fields) others with
  | false => rfl
  | true =>
    rw [← Record.isFit_of_perm perm] at fit
    apply reads.same
    intro f _
    exact Field.value?_of_find?
      (Record.find?_of_perm (Record.given_perm perm) (Record.nodup_of_isFit fit) f.name)

theorem decode?_of_unknown (build? : Record → Option α)
    {extra : List (Spelling × Json)}
    (unknown : ∀ member ∈ extra, ∃ key, member.1 = some key ∧ key ∉ names fields) :
    (Record.ofJson? (names fields) (.object (extra ++ members)) >>= build?) =
      (Record.ofJson? (names fields) (.object members) >>= build?) := by
  have nothing : Record.given (names fields) extra = [] := by
    apply List.eq_nil_iff_forall_not_mem.mpr
    rintro ⟨name, json⟩ given
    obtain ⟨listed, member⟩ := Record.mem_given.mp given
    obtain ⟨key, same, absent⟩ := unknown _ member
    obtain rfl := Option.some.inj same
    exact absent listed
  have spelt : extra.all (·.1.isSome) = true := by
    apply List.all_eq_true.mpr
    intro member listed
    obtain ⟨key, same, -⟩ := unknown member listed
    rw [same]
    rfl
  rw [Record.ofJson?_object, Record.ofJson?_object, Record.isFit, Record.isFit, Record.given_append,
    nothing, List.all_append, spelt, Bool.true_and, List.nil_append]

theorem decode?_of_repeated (build? : Record → Option α) (listed : f ∈ fields)
    (repeated : 2 ≤ (members.map (·.1)).count (some f.name)) :
    (Record.ofJson? (names fields) (.object members) >>= build?) = none := by
  rw [Record.ofJson?_object]
  cases fit : Record.isFit (names fields) members with
  | false => rfl
  | true =>
    have once := List.nodup_iff_count_le_one.mp (Record.nodup_of_isFit fit) f.name
    rw [Record.count_given (name_mem_names listed)] at once
    omega

/-- What a record with one field more is read as depends on the value of that field. -/
theorem build?_cons (reads : ReadsBy fields build?) (distinct : (names fields).Nodup)
    (listed : f ∈ fields) {r other : Record} (first : f.value? r = f.value? other)
    (rest : ∀ name, name ≠ f.name → r.find? name = other.find? name) : build? r = build? other := by
  apply reads.same
  intro g others
  by_cases same : g.name = f.name
  · obtain rfl := List.inj_on_of_nodup_map distinct others listed same
    exact first
  · exact Field.value?_of_find? (rest g.name same)

theorem agrees_of_readsBy {decode? : Json → Option α} (distinct : (names fields).Nodup)
    (reads : ReadsBy fields build?)
    (writable : ∀ f ∈ fields, f.IsWritable)
    (decodes : ∀ json, decode? json = Record.ofJson? (names fields) json >>= build?) :
    Agrees fields decode? where
  order members others perm := by
    rw [decodes, decodes]
    exact decode?_of_perm reads perm
  unknown extra members unknown := by
    rw [decodes, decodes]
    exact decode?_of_unknown build? unknown
  repeated members f listed repeated := by
    rw [decodes]
    exact decode?_of_repeated build? listed repeated
  nested members f listed json other same := by
    have known := name_mem_names listed
    -- Whether the members fit does not depend on the values.
    rw [decodes, decodes, Record.ofJson?_object, Record.ofJson?_object, Record.isFit_cons known,
      Record.isFit_cons known, Record.given_cons_of_mem known, Record.given_cons_of_mem known]
    split
    · apply build?_cons reads distinct listed
      · rw [Field.value?_of_given Record.find?_cons_self,
          Field.value?_of_given Record.find?_cons_self, same]
      · intro name apart
        rw [Record.find?_cons_of_ne apart.symm, Record.find?_cons_of_ne apart.symm]
    · rfl
  omitted members f listed absent standard json stands written := by
    have known := name_mem_names listed
    -- The key is new, so with it the members fit as well as without.
    rw [decodes, decodes, Record.ofJson?_object, Record.ofJson?_object, Record.isFit_cons known,
      Record.given_cons_of_mem known, decide_eq_true absent, Bool.true_and]
    split
    · apply build?_cons reads distinct listed
      · rw [Field.value?_of_omitted (Record.find?_of_not_mem absent),
          Field.value?_of_given Record.find?_cons_self, stands, written]
      · intro name apart
        rw [Record.find?_cons_of_ne apart.symm]
    · rfl
  writable := writable
  required members f listed absent needed := by
    rw [decodes, Record.ofJson?_object]
    split
    · apply reads.unread _ f listed
      rw [Field.value?_of_omitted (Record.find?_of_not_mem absent), needed]
    · rfl
  inOrder items short := by
    have shorter : items.length ≤ (names fields).length := by
      rw [names, List.length_map]
      exact short
    rw [decodes, decodes, Record.ofJson?_zip distinct shorter, Record.ofJson?, if_pos shorter]
    exact reads.same _ _ fun _ _ => rfl
  surplus items long := by
    have longer : ¬ items.length ≤ (names fields).length := by
      rw [names, List.length_map]
      omega
    rw [decodes, Record.ofJson?, if_neg longer]
    rfl

end

end Json

/-! ## The records of the timer -/

open Json (Field)

def Point.fields : List Field :=
  [.required "latitude" Json.toFloat?, .required "longitude" Json.toFloat?]

def Track.fields : List Field :=
  [.required "start" Point.ofJson?, .required "finish" Point.ofJson?,
    .defaulted "sectors" Track.noWaypoints Waypoints.ofJson?]

def TrackConfig.fields : List Field :=
  [.defaulted "track" standard.track Track.ofJson?,
    .defaulted "radius_degrees" standard.radiusDegrees Json.toFloat32?,
    .defaulted "auto_detect" standard.autoDetect Json.toBool?,
    .defaulted "sector_timing" standard.sectorTiming Json.toBool?]

/-- The fields of a line in a session log. -/
def Replay.fixFields : List Field :=
  [.required "lat" Json.toFloat?, .required "lon" Json.toFloat?,
    .defaulted "speed" 0.0 Json.toFloat32?,
    .defaulted "millis" none (Json.toOption? Json.toWord?),
    .defaulted "quality" .fix Quality.ofJson?]

theorem Point.agrees : Json.Agrees Point.fields Point.ofJson? := by
  apply Json.agrees_of_readsBy (by decide) _ _ fun _ => rfl
  · -- A decoder is a chain of fields, as it is written.
    simp only [Json.Record.required?_eq]
    exact .cons fun _ => .cons fun _ => Json.readsBy_nil _
  · simp only [fields, List.forall_mem_cons]
    exact ⟨Field.isWritable_required, Field.isWritable_required, nofun⟩

theorem Track.agrees : Json.Agrees Track.fields Track.ofJson? := by
  apply Json.agrees_of_readsBy (by decide) _ _ fun _ => rfl
  · simp only [Json.Record.required?_eq, Json.Record.defaulted?_eq]
    exact .cons fun _ => .cons fun _ => .cons fun _ => Json.readsBy_nil _
  · have waypoints : Waypoints.ofJson? noWaypoints.toJson = some noWaypoints := by decide +kernel
    simp only [fields, List.forall_mem_cons]
    exact ⟨Field.isWritable_required, Field.isWritable_required,
      Field.isWritable_defaulted _ waypoints, nofun⟩

theorem TrackConfig.agrees : Json.Agrees TrackConfig.fields TrackConfig.ofJson? := by
  apply Json.agrees_of_readsBy (by decide) _ _ fun _ => rfl
  · simp only [Json.Record.defaulted?_eq]
    exact .cons fun _ => .cons fun _ => .cons fun _ => .cons fun _ => Json.readsBy_nil _
  · have track : Track.ofJson? standard.track.toJson = some standard.track := by decide +kernel
    have radius : (Json.ofFloat32 standard.radiusDegrees).toFloat32? = some standard.radiusDegrees := by
      decide +kernel
    simp only [fields, List.forall_mem_cons]
    exact ⟨Field.isWritable_defaulted _ track, Field.isWritable_defaulted _ radius,
      Field.isWritable_defaulted (.bool false) rfl, Field.isWritable_defaulted (.bool true) rfl, nofun⟩

theorem Replay.fix_agrees : Json.Agrees fixFields fixOfJson? := by
  apply Json.agrees_of_readsBy (by decide) _ _ fun _ => rfl
  · simp only [Json.Record.required?_eq, Json.Record.defaulted?_eq]
    exact .cons fun _ => .cons fun _ => .cons fun _ => .cons fun _ => .cons fun _ =>
      Json.readsBy_nil _
  · have speed : (Json.ofFloat32 0.0).toFloat32? = some 0.0 := by decide +kernel
    simp only [fixFields, List.forall_mem_cons]
    exact ⟨Field.isWritable_required, Field.isWritable_required,
      Field.isWritable_defaulted _ speed, Field.isWritable_defaulted .null rfl,
      Field.isWritable_defaulted (Quality.toJson .fix) rfl, nofun⟩

/-- Waypoints are what the points in their slots are read as. -/
theorem Waypoints.ofJson?_congr {items others : List Json}
    (same : items.map Point.ofJson? = others.map Point.ofJson?) :
    ofJson? (.array items) = ofJson? (.array others) := by
  have points : items.mapM Point.ofJson? = others.mapM Point.ofJson? := by
    have each (items : List Json) :
        items.mapM Point.ofJson? = (items.map Point.ofJson?).mapM id := by
      rw [List.mapM_map]
      rfl
    rw [each, each, same]
  rw [ofJson?, ofJson?, points]

/-- Configurations, tracks and the lines of a session log decode the same in all their forms, and so do
the points in them, each by itself where there is a list of them. -/
theorem recordForms_agree :
    Json.Agrees TrackConfig.fields TrackConfig.ofJson? ∧ Json.Agrees Track.fields Track.ofJson? ∧
      Json.Agrees Replay.fixFields Replay.fixOfJson? ∧ Json.Agrees Point.fields Point.ofJson? ∧
      ∀ items others : List Json, items.map Point.ofJson? = others.map Point.ofJson? →
        Waypoints.ofJson? (.array items) = Waypoints.ofJson? (.array others) :=
  ⟨TrackConfig.agrees, Track.agrees, Replay.fix_agrees, Point.agrees,
    fun _ _ => Waypoints.ofJson?_congr⟩

end TrackTimer
