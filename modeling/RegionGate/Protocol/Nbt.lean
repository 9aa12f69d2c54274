import RegionGate.Parsing
import RegionGate.Protocol.Play.RoundTrip

open parsing regiongate.play

namespace regiongate.configuration

-- The tags of NBT that the encoder uses.
def nbtEnd : UInt8 := 0
def nbtByte : UInt8 := 1
def nbtInt : UInt8 := 3
def nbtLong : UInt8 := 4
def nbtFloat : UInt8 := 5
def nbtDouble : UInt8 := 6
def nbtString : UInt8 := 8
def nbtList : UInt8 := 9
def nbtCompound : UInt8 := 10

/-- A field with the kind of its tag as the first byte of its data. -/
structure NbtField where
  name : Bytes
  data : Bytes
  deriving DecidableEq

/-- `Compound`: the fields in the order in which they were added. -/
structure Compound where
  fields : List NbtField
  deriving DecidableEq

/-- `binary.BigEndian.PutUint16`. -/
def put_uint16 (value : UInt16) : Bytes := [(value >>> 8).toUInt8, value.toUInt8]

/-- `appendStringPayload`: the length in 16 bits, of which longer strings lose the
rest. -/
def append_string_payload (value : Bytes) : Bytes := put_uint16 (.ofNat value.length) ++ value

/-- The bytes of one field in its compound. -/
def NbtField.encode (field : NbtField) : Bytes :=
  field.data.take 1 ++ append_string_payload field.name ++ field.data.drop 1

namespace Compound

/-- `NewCompound`. -/
def new : Compound := ⟨[]⟩

/-- `encodePayload`: the fields and the end tag. -/
def encode_payload (c : Compound) : Bytes := c.fields.flatMap NbtField.encode ++ [nbtEnd]

/-- `add`: every field is stored with the byte of its kind before its data. -/
def add (c : Compound) (kind : UInt8) (name data : Bytes) : Compound :=
  ⟨c.fields ++ [⟨name, kind :: data⟩]⟩

/-- `Byte`. -/
def byte (c : Compound) (name : Bytes) (value : UInt8) : Compound := c.add nbtByte name [value]

/-- `Int`. -/
def int (c : Compound) (name : Bytes) (value : Int32) : Compound :=
  c.add nbtInt name (put_uint32 value.toUInt32)

/-- `Long`. -/
def long (c : Compound) (name : Bytes) (value : Int64) : Compound :=
  c.add nbtLong name (put_uint64 value.toUInt64)

/-- A float is given by its IEEE 754 bits. -/
def float (c : Compound) (name : Bytes) (bits : UInt32) : Compound := c.add nbtFloat name (put_uint32 bits)

/-- `Double`, the value given by its bits. -/
def double (c : Compound) (name : Bytes) (bits : UInt64) : Compound := c.add nbtDouble name (put_uint64 bits)

/-- `String`. -/
def string (c : Compound) (name value : Bytes) : Compound := c.add nbtString name (append_string_payload value)

/-- `Compound`: the other compound is encoded at once. -/
def compound (c : Compound) (name : Bytes) (value : Compound) : Compound :=
  c.add nbtCompound name value.encode_payload

/-- `ListOfCompounds`, with the number of the values in 32 bits. -/
def list_of_compounds (c : Compound) (name : Bytes) (values : List Compound) : Compound :=
  c.add nbtList name
    (nbtCompound :: put_uint32 (.ofNat values.length) ++ values.flatMap encode_payload)

/-- `ListOfStrings`, with the number of the values in 32 bits. -/
def list_of_strings (c : Compound) (name : Bytes) (values : List Bytes) : Compound :=
  c.add nbtList name
    (nbtString :: put_uint32 (.ofNat values.length) ++ values.flatMap append_string_payload)

/-- `Encode`: the root compound has no name. -/
def encode (c : Compound) (max_size : Int) : Except Error Bytes :=
  let data := nbtCompound :: c.encode_payload
  if data.length > max_size then .error .NBTTooLarge else .ok data

end Compound

/-- What a field holds. -/
inductive Tag where
  | Byte (value : UInt8)
  | Int (value : Int32)
  | Long (value : Int64)
  | Float (bits : UInt32)
  | Double (bits : UInt64)
  | String (value : Bytes)
  | Compound (fields : List (Bytes × Tag))
  | Compounds (values : List (List (Bytes × Tag)))
  | Strings (values : List Bytes)

/-- The fields of a compound in their order. -/
abbrev Tree := List (Bytes × Tag)

/-- A compound is built by a sequence of calls that give it the fields of a
tree. `short` bounds the lengths of its names and strings and `few` the
lengths of its lists; the constantly true conditions allow every call. -/
inductive Builds (short few : Nat → Prop) : Compound → Tree → Prop where
  | new : Builds short few .new []
  | byte {c : Compound} {t : Tree} {name : Bytes} (h : Builds short few c t) (hname : short name.length)
      (value : UInt8) : Builds short few (c.byte name value) (t ++ [(name, .Byte value)])
  | int {c : Compound} {t : Tree} {name : Bytes} (h : Builds short few c t) (hname : short name.length)
      (value : Int32) : Builds short few (c.int name value) (t ++ [(name, .Int value)])
  | long {c : Compound} {t : Tree} {name : Bytes} (h : Builds short few c t) (hname : short name.length)
      (value : Int64) : Builds short few (c.long name value) (t ++ [(name, .Long value)])
  | float {c : Compound} {t : Tree} {name : Bytes} (h : Builds short few c t) (hname : short name.length)
      (bits : UInt32) : Builds short few (c.float name bits) (t ++ [(name, .Float bits)])
  | double {c : Compound} {t : Tree} {name : Bytes} (h : Builds short few c t) (hname : short name.length)
      (bits : UInt64) : Builds short few (c.double name bits) (t ++ [(name, .Double bits)])
  | string {c : Compound} {t : Tree} {name value : Bytes} (h : Builds short few c t) (hname : short name.length)
      (hvalue : short value.length) : Builds short few (c.string name value) (t ++ [(name, .String value)])
  | compound {c inner : Compound} {t fields : Tree} {name : Bytes} (h : Builds short few c t)
      (hname : short name.length) (hinner : Builds short few inner fields) :
      Builds short few (c.compound name inner) (t ++ [(name, .Compound fields)])
  | list_of_compounds {c : Compound} {t : Tree} {name : Bytes} {values : List (Compound × Tree)}
      (h : Builds short few c t) (hname : short name.length) (hcount : few values.length)
      (hvalues : ∀ value ∈ values, Builds short few value.1 value.2) :
      Builds short few (c.list_of_compounds name (values.map (·.1)))
        (t ++ [(name, .Compounds (values.map (·.2)))])
  | list_of_strings {c : Compound} {t : Tree} {name : Bytes} {values : List Bytes} (h : Builds short few c t)
      (hname : short name.length) (hcount : few values.length) (hvalues : ∀ value ∈ values, short value.length) :
      Builds short few (c.list_of_strings name values) (t ++ [(name, .Strings values)])

/-- Four bytes in network order. -/
def readUint32 : Reader UInt8 UInt32 := do
  let data ← exactly 4
  return uint32 data

/-- Eight bytes in network order. -/
def readUint64 : Reader UInt8 UInt64 := do
  let data ← exactly 8
  return uint64 data

/-- A string with its 16-bit length. -/
def readString : Reader UInt8 Bytes := do
  let length ← exactly 2
  exactly (bigEndian length)

/-- The number of elements of a list, a signed number; a negative one stands for
no elements. -/
def readCount : Reader UInt8 Nat := do
  let count ← readUint32
  return count.toInt32.toInt.toNat

/-- What follows the name of a field, by the kind of its tag. -/
def readPayload (compound : Reader UInt8 Tree) (kind : UInt8) : Reader UInt8 Tag :=
  if kind = nbtByte then do
    let value ← one
    return .Byte value
  else if kind = nbtInt then do
    let value ← readUint32
    return .Int value.toInt32
  else if kind = nbtLong then do
    let value ← readUint64
    return .Long value.toInt64
  else if kind = nbtFloat then do
    let bits ← readUint32
    return .Float bits
  else if kind = nbtDouble then do
    let bits ← readUint64
    return .Double bits
  else if kind = nbtString then do
    let value ← readString
    return .String value
  else if kind = nbtCompound then do
    let fields ← compound
    return .Compound fields
  else if kind = nbtList then do
    let element ← one
    let count ← readCount
    if element = nbtCompound then
      let values ← times count compound
      return .Compounds values
    else if element = nbtString then
      let values ← times count readString
      return .Strings values
    else failure
  else failure

/-- The fields of a compound up to its end marker; the number bounds how many
fields follow each other or lie within each other. -/
def readFields : Nat → Reader UInt8 Tree
  | 0 => failure
  | depth + 1 => do
    let kind ← one
    if kind = nbtEnd then return []
    else
      let name ← readString
      let tag ← readPayload (readFields depth) kind
      let fields ← readFields depth
      return (name, tag) :: fields

/-- The root compound of a document, which has no name. -/
def readDocument (depth : Nat) : Reader UInt8 Tree := do
  let kind ← one
  if kind = nbtCompound then readFields depth else failure

/-- The tree that a whole document stands for. -/
def decodeDocument (data : Bytes) : Option Tree := whole (readDocument data.length) data

section Reads

variable {compound : Reader UInt8 Tree}

theorem bigEndian_put_uint16 {n : Nat} (h : n < 2 ^ 16) : bigEndian (put_uint16 (.ofNat n)) = n := by
  have hn : (UInt16.ofNat n).toNat = n := by
    rw [UInt16.toNat_ofNat']
    omega
  simp only [bigEndian, put_uint16, List.foldl_cons, List.foldl_nil, UInt16.toNat_toUInt8,
    UInt16.toNat_shiftRight, Nat.shiftRight_eq_div_pow, UInt16.reduceToNat, Nat.reduceMod, Nat.reducePow, hn]
  omega

/-- A string whose length fits in 16 bits is read back. -/
theorem reads_readString {value : Bytes} (h : value.length < 2 ^ 16) :
    Reads readString (append_string_payload value) value := by
  have hlength : Reads (exactly 2) (put_uint16 (.ofNat value.length)) (put_uint16 (.ofNat value.length)) :=
    reads_exactly rfl
  exact hlength.bind (reads_exactly (bigEndian_put_uint16 h).symm)

theorem reads_readUint32 (value : UInt32) : Reads readUint32 (put_uint32 value) value := by
  have hvalue : uint32 (put_uint32 value) = value := by simpa using uint32_put_uint32 value []
  have hdata : Reads (exactly 4) (put_uint32 value) (put_uint32 value) := reads_exactly rfl
  have hread : Reads readUint32 (put_uint32 value) (uint32 (put_uint32 value)) := hdata.map
  rwa [hvalue] at hread

theorem reads_readUint64 (value : UInt64) : Reads readUint64 (put_uint64 value) value := by
  have hvalue : uint64 (put_uint64 value) = value := by simpa using uint64_put_uint64 value []
  have hdata : Reads (exactly 8) (put_uint64 value) (put_uint64 value) := reads_exactly rfl
  have hread : Reads readUint64 (put_uint64 value) (uint64 (put_uint64 value)) := hdata.map
  rwa [hvalue] at hread

/-- A count whose sign bit is free is read back. -/
theorem reads_readCount {n : Nat} (h : n < 2 ^ 31) : Reads readCount (put_uint32 (.ofNat n)) n := by
  have hread : Reads readCount (put_uint32 (.ofNat n)) (UInt32.ofNat n).toInt32.toInt.toNat :=
    (reads_readUint32 _).map
  rwa [UInt32.toInt32_ofNat', Int32.toInt_ofNat_of_lt h, Int.toNat_natCast] at hread

theorem reads_byte (value : UInt8) : Reads (readPayload compound nbtByte) [value] (.Byte value) :=
  (reads_one value).map

theorem reads_int (value : Int32) :
    Reads (readPayload compound nbtInt) (put_uint32 value.toUInt32) (.Int value) :=
  (reads_readUint32 value.toUInt32).map

theorem reads_long (value : Int64) :
    Reads (readPayload compound nbtLong) (put_uint64 value.toUInt64) (.Long value) :=
  (reads_readUint64 value.toUInt64).map

theorem reads_float (bits : UInt32) : Reads (readPayload compound nbtFloat) (put_uint32 bits) (.Float bits) :=
  (reads_readUint32 bits).map

theorem reads_double (bits : UInt64) : Reads (readPayload compound nbtDouble) (put_uint64 bits) (.Double bits) :=
  (reads_readUint64 bits).map

theorem reads_string {value : Bytes} (h : value.length < 2 ^ 16) :
    Reads (readPayload compound nbtString) (append_string_payload value) (.String value) :=
  (reads_readString h).map

theorem reads_compound {data : Bytes} {fields : Tree} (h : Reads compound data fields) :
    Reads (readPayload compound nbtCompound) data (.Compound fields) :=
  h.map

theorem reads_strings {values : List Bytes} (hcount : values.length < 2 ^ 31)
    (h : ∀ value ∈ values, value.length < 2 ^ 16) :
    Reads (readPayload compound nbtList)
      (nbtString :: put_uint32 (.ofNat values.length) ++ values.flatMap append_string_payload)
      (.Strings values) := by
  have hvalues : Reads (times values.length readString) (values.flatMap append_string_payload) values := by
    have htimes := reads_times fun value hvalue => reads_readString (h value hvalue)
    rwa [List.map_id'] at htimes
  exact (reads_one nbtString).bind ((reads_readCount hcount).bind hvalues.map)

/-- A list of compounds is read back if each of them is. -/
theorem reads_compounds {values : List (Compound × Tree)} (hcount : values.length < 2 ^ 31)
    (h : ∀ value ∈ values, Reads compound value.1.encode_payload value.2) :
    Reads (readPayload compound nbtList)
      (nbtCompound :: put_uint32 (.ofNat (values.map (·.1)).length) ++
        (values.map (·.1)).flatMap Compound.encode_payload)
      (.Compounds (values.map (·.2))) := by
  have hvalues : Reads (times values.length compound) (values.flatMap (·.1.encode_payload))
      (values.map (·.2)) := reads_times h
  rw [List.length_map, List.flatMap_map]
  exact (reads_one nbtCompound).bind ((reads_readCount hcount).bind hvalues.map)

end Reads

/-- The bytes of the fields, without the end marker. -/
def Compound.body (c : Compound) : Bytes := c.fields.flatMap NbtField.encode

theorem body_add (c : Compound) (kind : UInt8) (name data : Bytes) :
    (c.add kind name data).body = c.body ++ (kind :: append_string_payload name ++ data) := by
  simp [Compound.body, Compound.add, NbtField.encode]

/-- Bytes from which fields are read at every sufficient depth. -/
def ReadsFields (data : Bytes) (fields : Tree) : Prop :=
  ∀ depth, data.length ≤ depth → Reads (readFields depth) data fields

theorem readsFields_end : ReadsFields [nbtEnd] [] := by
  intro depth hdepth
  cases depth with
  | zero => simp at hdepth
  | succ depth => exact (reads_one nbtEnd).bind Reads.pure

/-- One field in front of others. -/
theorem readsFields_cons {kind : UInt8} {name data rest : Bytes} {tag : Tag} {fields : Tree} (hkind : kind ≠ nbtEnd)
    (hname : name.length < 2 ^ 16)
    (htag : ∀ depth, data.length ≤ depth → Reads (readPayload (readFields depth) kind) data tag)
    (hrest : ReadsFields rest fields) :
    ReadsFields (kind :: append_string_payload name ++ data ++ rest) ((name, tag) :: fields) := by
  intro depth hdepth
  cases depth with
  | zero => simp at hdepth
  | succ depth =>
    simp only [List.length_append, List.length_cons] at hdepth
    have hdata := htag depth (by omega)
    have hfields := hrest depth (by omega)
    have hfield : Reads (do
        let name ← readString
        let tag ← readPayload (readFields depth) kind
        let fields ← readFields depth
        return (name, tag) :: fields)
        (append_string_payload name ++ (data ++ rest)) ((name, tag) :: fields) :=
      (reads_readString hname).bind (hdata.bind hfields.map)
    have hwritten : kind :: append_string_payload name ++ data ++ rest =
        [kind] ++ (append_string_payload name ++ (data ++ rest)) := by simp
    rw [hwritten, readFields]
    refine (reads_one kind).bind ?_
    rw [if_neg hkind]
    exact hfield

theorem reads_readDocument {depth : Nat} {data : Bytes} {fields : Tree} (h : Reads (readFields depth) data fields) :
    Reads (readDocument depth) (nbtCompound :: data) fields :=
  (reads_one nbtCompound).bind h

/-- A compound is read back in front of whatever fields follow. -/
def Compound.ReadsBack (c : Compound) (t : Tree) : Prop :=
  ∀ rest fields, ReadsFields rest fields → ReadsFields (c.body ++ rest) (t ++ fields)

/-- A further field goes between those before it and whatever follows. -/
theorem Compound.ReadsBack.add {c : Compound} {t : Tree} {kind : UInt8} {name data : Bytes} {tag : Tag}
    (h : c.ReadsBack t) (hkind : kind ≠ nbtEnd) (hname : name.length < 2 ^ 16)
    (htag : ∀ depth, data.length ≤ depth → Reads (readPayload (readFields depth) kind) data tag) :
    (c.add kind name data).ReadsBack (t ++ [(name, tag)]) := by
  intro rest fields hrest
  rw [body_add, List.append_assoc c.body, List.append_assoc t]
  exact h _ _ (readsFields_cons hkind hname htag hrest)

/-- A compound that is read back is followed by its end tag. -/
theorem Compound.ReadsBack.payload {c : Compound} {t : Tree} (h : c.ReadsBack t) :
    ReadsFields c.encode_payload t := by
  have hend := h [nbtEnd] [] readsFields_end
  rwa [List.append_nil] at hend

/-- A compound of a list is no longer than the list, which bounds the depth that the
reader needs. -/
theorem encode_payload_length_le {values : List (Compound × Tree)} {value : Compound × Tree} (h : value ∈ values) :
    value.1.encode_payload.length ≤ ((values.map (·.1)).flatMap Compound.encode_payload).length := by
  obtain ⟨before, after, rfl⟩ := List.append_of_mem h
  simp only [List.map_append, List.map_cons, List.flatMap_append, List.flatMap_cons, List.length_append]
  omega

/-- Compounds are read back, by induction on the calls that built them. -/
theorem Builds.readsBack {c : Compound} {t : Tree} (h : Builds (· < 2 ^ 16) (· < 2 ^ 31) c t) : c.ReadsBack t := by
  induction h with
  | new => exact fun _ _ hrest => hrest
  | byte _ hname value ih => exact ih.add (by decide) hname fun _ _ => reads_byte value
  | int _ hname value ih => exact ih.add (by decide) hname fun _ _ => reads_int value
  | long _ hname value ih => exact ih.add (by decide) hname fun _ _ => reads_long value
  | float _ hname bits ih => exact ih.add (by decide) hname fun _ _ => reads_float bits
  | double _ hname bits ih => exact ih.add (by decide) hname fun _ _ => reads_double bits
  | string _ hname hvalue ih => exact ih.add (by decide) hname fun _ _ => reads_string hvalue
  | compound _ hname _ ih ihinner =>
    exact ih.add (by decide) hname fun depth hdepth => reads_compound (ihinner.payload depth hdepth)
  | list_of_compounds _ hname hcount _ ih ihvalues =>
    refine ih.add (by decide) hname fun depth hdepth => reads_compounds hcount fun value hvalue => ?_
    refine (ihvalues value hvalue).payload depth ?_
    have hle := encode_payload_length_le hvalue
    rw [List.length_append] at hdepth
    omega
  | list_of_strings _ hname hcount hvalues ih =>
    exact ih.add (by decide) hname fun _ _ => reads_strings hcount hvalues

/-- A compound built with lengths that fit is read back as the tree that it stands
for. -/
theorem Builds.decodeDocument {c : Compound} {t : Tree} (h : Builds (· < 2 ^ 16) (· < 2 ^ 31) c t) :
    decodeDocument (nbtCompound :: c.encode_payload) = some t := by
  have hfields := h.readsBack.payload (nbtCompound :: c.encode_payload).length (by simp)
  exact (reads_readDocument hfields).whole

/-- A tag whose names, strings and lists have lengths that a document can give. -/
inductive Tag.Within : Tag → Prop where
  | byte (value : UInt8) : Tag.Within (.Byte value)
  | int (value : Int32) : Tag.Within (.Int value)
  | long (value : Int64) : Tag.Within (.Long value)
  | float (bits : UInt32) : Tag.Within (.Float bits)
  | double (bits : UInt64) : Tag.Within (.Double bits)
  | string {value : Bytes} (hvalue : value.length < 2 ^ 16) : Tag.Within (.String value)
  | compound {fields : List (Bytes × Tag)} (hnames : ∀ field ∈ fields, field.1.length < 2 ^ 16)
      (htags : ∀ field ∈ fields, Tag.Within field.2) : Tag.Within (.Compound fields)
  | compounds {values : List (List (Bytes × Tag))} (hcount : values.length < 2 ^ 31)
      (hnames : ∀ fields ∈ values, ∀ field ∈ fields, field.1.length < 2 ^ 16)
      (htags : ∀ fields ∈ values, ∀ field ∈ fields, Tag.Within field.2) : Tag.Within (.Compounds values)
  | strings {values : List Bytes} (hcount : values.length < 2 ^ 31)
      (hvalues : ∀ value ∈ values, value.length < 2 ^ 16) : Tag.Within (.Strings values)

/-- Every name and every value of a tree is of a length that NBT has a place for. -/
def FieldsWithin (t : Tree) : Prop := ∀ field ∈ t, field.1.length < 2 ^ 16 ∧ field.2.Within

section Ensures

theorem bigEndian_pair_lt {bytes : Bytes} (h : bytes.length = 2) : bigEndian bytes < 2 ^ 16 := by
  obtain ⟨first, second, rfl⟩ := List.length_eq_two.mp h
  have hfirst := first.toNat_lt
  have hsecond := second.toNat_lt
  simp only [bigEndian, List.foldl_cons, List.foldl_nil]
  omega

theorem ensures_readString : Ensures readString (·.length < 2 ^ 16) := by
  refine (ensures_exactly 2).bind fun length hlength => ?_
  intro input value rest hrun
  rw [ensures_exactly _ hrun]
  exact bigEndian_pair_lt hlength

theorem ensures_readCount : Ensures readCount (· < 2 ^ 31) := by
  refine .skip fun count => .pure ?_
  have hlt := count.toInt32.toInt_lt
  omega

theorem ensures_readPayload {compound : Reader UInt8 Tree} (h : Ensures compound FieldsWithin) (kind : UInt8) :
    Ensures (readPayload compound kind) Tag.Within := by
  unfold readPayload
  refine .ite (.skip fun value => .pure (.byte value)) ?_
  refine .ite (.skip fun value => .pure (.int value.toInt32)) ?_
  refine .ite (.skip fun value => .pure (.long value.toInt64)) ?_
  refine .ite (.skip fun bits => .pure (.float bits)) ?_
  refine .ite (.skip fun bits => .pure (.double bits)) ?_
  refine .ite (ensures_readString.bind fun value hvalue => .pure (.string hvalue)) ?_
  refine .ite (h.bind fun fields hfields => .pure ?_) ?_
  · exact .compound (fun field hfield => (hfields field hfield).1) fun field hfield => (hfields field hfield).2
  refine .ite (.skip fun element => ensures_readCount.bind fun count hcount => ?_) .failure
  refine .ite ((ensures_times count h).bind fun values hvalues => .pure ?_) ?_
  · exact .compounds (hvalues.1.trans_lt hcount)
      (fun fields hmem field hfield => (hvalues.2 fields hmem field hfield).1)
      fun fields hmem field hfield => (hvalues.2 fields hmem field hfield).2
  refine .ite ((ensures_times count ensures_readString).bind fun values hvalues => .pure ?_) .failure
  exact .strings (hvalues.1.trans_lt hcount) hvalues.2

/-- A decoder cannot make up longer names, strings or lists than it can read. -/
theorem ensures_readFields (depth : Nat) : Ensures (readFields depth) FieldsWithin := by
  induction depth with
  | zero => exact .failure
  | succ depth ih =>
    refine .skip fun kind => .ite (.pure (by simp [FieldsWithin])) ?_
    refine ensures_readString.bind fun name hname => (ensures_readPayload ih kind).bind fun tag htag => ?_
    exact ih.bind fun fields hfields => .pure (List.forall_mem_cons.mpr ⟨⟨hname, htag⟩, hfields⟩)

/-- No document stands for a tree with a length that NBT has no place for. -/
theorem decodeDocument_within {data : Bytes} {t : Tree} (h : decodeDocument data = some t) : FieldsWithin t := by
  have hdocument : Ensures (readDocument data.length) FieldsWithin :=
    .skip fun _ => .ite (ensures_readFields _) .failure
  exact hdocument (whole_eq_some.mp h)

end Ensures

/-- The last field of a tree within the limits, and those before it. -/
theorem FieldsWithin.snoc {t : Tree} {name : Bytes} {tag : Tag} (h : FieldsWithin (t ++ [(name, tag)])) :
    FieldsWithin t ∧ name.length < 2 ^ 16 ∧ tag.Within :=
  ⟨fun field hfield => h field (List.mem_append_left _ hfield), h (name, tag) (by simp)⟩

/-- The calls that built a tree within the limits kept to them. -/
theorem Builds.within {c : Compound} {t : Tree} (h : Builds (fun _ => True) (fun _ => True) c t)
    (hwithin : FieldsWithin t) : Builds (· < 2 ^ 16) (· < 2 ^ 31) c t := by
  induction h with
  | new => exact .new
  | byte _ _ value ih =>
    obtain ⟨hbefore, hname, _⟩ := hwithin.snoc
    exact (ih hbefore).byte hname value
  | int _ _ value ih =>
    obtain ⟨hbefore, hname, _⟩ := hwithin.snoc
    exact (ih hbefore).int hname value
  | long _ _ value ih =>
    obtain ⟨hbefore, hname, _⟩ := hwithin.snoc
    exact (ih hbefore).long hname value
  | float _ _ bits ih =>
    obtain ⟨hbefore, hname, _⟩ := hwithin.snoc
    exact (ih hbefore).float hname bits
  | double _ _ bits ih =>
    obtain ⟨hbefore, hname, _⟩ := hwithin.snoc
    exact (ih hbefore).double hname bits
  | string _ _ _ ih =>
    obtain ⟨hbefore, hname, htag⟩ := hwithin.snoc
    cases htag with
    | string hvalue => exact (ih hbefore).string hname hvalue
  | compound _ _ _ ih ihinner =>
    obtain ⟨hbefore, hname, htag⟩ := hwithin.snoc
    cases htag with
    | compound hnames htags =>
      exact (ih hbefore).compound hname (ihinner fun field hfield => ⟨hnames field hfield, htags field hfield⟩)
  | list_of_compounds _ _ _ _ ih ihvalues =>
    obtain ⟨hbefore, hname, htag⟩ := hwithin.snoc
    cases htag with
    | compounds hcount hnames htags =>
      rw [List.length_map] at hcount
      refine (ih hbefore).list_of_compounds hname hcount fun value hvalue => ihvalues value hvalue ?_
      have hmem := List.mem_map_of_mem (f := (·.2)) hvalue
      exact fun field hfield => ⟨hnames _ hmem field hfield, htags _ hmem field hfield⟩
  | list_of_strings _ _ _ _ ih =>
    obtain ⟨hbefore, hname, htag⟩ := hwithin.snoc
    cases htag with
    | strings hcount hvalues => exact (ih hbefore).list_of_strings hname hcount hvalues

/-- A document is read back completely from its encoding exactly when its names
and strings fit their 16-bit lengths and its lists their signed 32-bit ones. -/
theorem document_read_back {c : Compound} {t : Tree} (h : Builds (fun _ => True) (fun _ => True) c t)
    {max_size : Int} {data : Bytes} (hencode : c.encode max_size = .ok data) :
    decodeDocument data = some t ↔ Builds (· < 2 ^ 16) (· < 2 ^ 31) c t := by
  rw [Compound.encode] at hencode
  split at hencode
  · cases hencode
  · cases hencode
    exact ⟨fun hread => h.within (decodeDocument_within hread), Builds.decodeDocument⟩

theorem encode_ok {c : Compound} {max_size : Int} (h : (c.encode_payload.length : Int) + 1 ≤ max_size) :
    c.encode max_size = .ok (nbtCompound :: c.encode_payload) := by
  rw [Compound.encode]
  exact if_neg (by rw [List.length_cons]; omega)

/-- A document with a compound and a list of strings in it. -/
theorem document_read_back_nested :
    let c := (Compound.new.compound [98] (Compound.new.byte [97] 1)).list_of_strings [99] [[100], []]
    let t : Tree := [([98], .Compound [([97], .Byte 1)]), ([99], .Strings [[100], []])]
    Builds (fun _ => True) (fun _ => True) c t ∧
      ∃ data, c.encode 100 = .ok data ∧ decodeDocument data = some t := by
  intro c t
  have hinner : Builds (· < 2 ^ 16) (· < 2 ^ 31) (Compound.new.byte [97] 1) [([97], .Byte 1)] :=
    Builds.new.byte (by decide) 1
  have houter : Builds (· < 2 ^ 16) (· < 2 ^ 31) (Compound.new.compound [98] (Compound.new.byte [97] 1))
      [([98], .Compound [([97], .Byte 1)])] := Builds.new.compound (by decide) hinner
  have hbuilds : Builds (· < 2 ^ 16) (· < 2 ^ 31) c t :=
    houter.list_of_strings (by decide) (by decide) (by decide)
  have hcalls : Builds (fun _ => True) (fun _ => True) c t :=
    (Builds.new.compound trivial (Builds.new.byte trivial 1)).list_of_strings trivial trivial fun _ _ => trivial
  have hencode : c.encode 100 = .ok (nbtCompound :: c.encode_payload) := encode_ok (by decide)
  exact ⟨hcalls, _, hencode, (document_read_back hcalls hencode).mpr hbuilds⟩

/-- A compound with a single string. -/
theorem encode_payload_string (name value : Bytes) : (Compound.new.string name value).encode_payload =
    nbtString :: append_string_payload name ++ (put_uint16 (.ofNat value.length) ++ (value ++ [nbtEnd])) := by
  change (Compound.new.add _ _ _).body ++ _ = _
  rw [body_add]
  simp [Compound.body, Compound.new, append_string_payload]

/-- A string of 65536 bytes that starts with zero. Its length is written as
zero, so the document seems to end there and the other bytes are left over. -/
theorem long_string_left_over {rest : Bytes} (hrest : rest.length = 65535) :
    (Compound.new.string [] (0 :: rest)).encode (2 * 2 ^ 20) =
        .ok (nbtCompound :: (Compound.new.string [] (0 :: rest)).encode_payload) ∧
      decodeDocument (nbtCompound :: (Compound.new.string [] (0 :: rest)).encode_payload) = none := by
  have hlength : UInt16.ofNat (0 :: rest).length = UInt16.ofNat 0 := by
    rw [List.length_cons, hrest]
    decide
  have hpayload : (Compound.new.string [] (0 :: rest)).encode_payload =
      (Compound.new.string [] []).encode_payload ++ (rest ++ [nbtEnd]) := by
    rw [encode_payload_string, encode_payload_string, hlength]
    rfl
  have hempty : Builds (· < 2 ^ 16) (· < 2 ^ 31) (Compound.new.string [] []) [([], .String [])] :=
    Builds.new.string (by decide) (by decide)
  constructor
  · refine encode_ok ?_
    have hsize : (Compound.new.string [] []).encode_payload.length = 6 := rfl
    rw [hpayload, List.length_append, List.length_append, hrest, hsize, List.length_singleton]
    omega
  · have hread := hempty.readsBack.payload (nbtCompound :: (Compound.new.string [] (0 :: rest)).encode_payload).length
      (by rw [List.length_cons, hpayload, List.length_append]; omega)
    have hleft := (reads_readDocument hread).whole_append
      (List.append_ne_nil_of_right_ne_nil rest (List.cons_ne_nil nbtEnd []))
    rw [decodeDocument, ← hleft, hpayload, List.cons_append]

/-- A string of 65536 bytes, of whose length nothing is left in 16 bits. -/
theorem long_string_not_read_back :
    ∃ c t data, Builds (fun _ => True) (fun _ => True) c t ∧ c.encode (2 * 2 ^ 20) = .ok data ∧
      decodeDocument data = none := by
  have hrest : (List.replicate 65535 (0 : UInt8)).length = 65535 := List.length_replicate
  obtain ⟨hencode, hdecode⟩ := long_string_left_over hrest
  exact ⟨_, _, _, Builds.new.string trivial trivial, hencode, hdecode⟩

end regiongate.configuration
