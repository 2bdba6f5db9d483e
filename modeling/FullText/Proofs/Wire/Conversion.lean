import FullText.Wire.Resp

/-!
# What a reply keeps of a value on the wire

A reply is a tree of the same shape as the value on the wire that it is made of, with the same
items in the same order at every place.  Bytes become text if they are the characters of one in
UTF-8, and stay as they are if not, so that the bytes are known in either case.

Only the status line `OK`, which has a value of its own on the wire, is among the replies a line
like any other.  Hence there is a way back from the reply to the value, up to how this line was
written (`WireValue.toReply_keeps`).
-/

namespace FullText

/-! ### Bytes that are text -/

/-- The bytes of a text are its characters in UTF-8. -/
theorem textBytes_eq (s : String) :
  textBytes s = s.toList.flatMap String.utf8EncodeChar
  := by
  have hencode : s.toUTF8 = s.toList.utf8Encode := String.utf8Encode_toList.symm
  rw [textBytes, hencode, List.utf8Encode, List.data_toByteArray]

/-- Bytes are read as the text whose characters they are. -/
theorem text?_eq_some_iff (bytes : List UInt8) (s : String) :
  text? bytes = some s ↔ bytes = s.toList.flatMap String.utf8EncodeChar
  := by
  rw [← textBytes_eq, text?, String.fromUTF8?]
  constructor
  · intro h
    split at h
    · obtain rfl := Option.some_inj.mp h
      rfl
    · cases h
  · intro h
    have hbytes : (⟨bytes.toArray⟩ : ByteArray) = s.toUTF8 := by
      rw [h]
      rfl
    simp only [hbytes, String.toUTF8_eq_toByteArray, dif_pos s.isValidUTF8]
    rfl

/-- Bytes that are not read are not the characters of any text. -/
theorem text?_eq_none_iff (bytes : List UInt8) :
  text? bytes = none ↔ ∀ cs : List Char, bytes ≠ cs.flatMap String.utf8EncodeChar
  := by
  rw [Option.eq_none_iff_forall_ne_some]
  constructor
  · intro h cs hcs
    apply h (String.ofList cs)
    rw [text?_eq_some_iff, String.toList_ofList, hcs]
  · intro h s hs
    apply h s.toList ((text?_eq_some_iff bytes s).mp hs)

namespace Reply

theorem ofBytes_eq_bulk_iff (bytes : List UInt8) (s : String) :
  ofBytes bytes = .bulk s ↔ bytes = s.toList.flatMap String.utf8EncodeChar
  := by
  rw [← text?_eq_some_iff, ofBytes]
  cases FullText.text? bytes with
  | none => simp
  | some s' => simp

theorem ofBytes_eq_blob_iff (bytes bytes' : List UInt8) :
  ofBytes bytes = .blob bytes' ↔
    bytes = bytes' ∧ ∀ cs : List Char, bytes ≠ cs.flatMap String.utf8EncodeChar
  := by
  rw [← text?_eq_none_iff, ofBytes]
  cases FullText.text? bytes with
  | none => simp
  | some s' => simp

/-- The reply that bytes make is text or bytes, and nothing else. -/
theorem ofBytes_cases (bytes : List UInt8) :
  (∃ s, ofBytes bytes = .bulk s) ∨ ofBytes bytes = .blob bytes
  := by
  rw [ofBytes]
  cases FullText.text? bytes with
  | none => exact .inr rfl
  | some s => exact .inl ⟨s, rfl⟩

end Reply

/-! ### The way back -/

mutual

/-- The value on the wire that makes a reply, a status line being one like any other. -/
def Reply.toWire : Reply → WireValue
  | .nil => .nil
  | .integer value => .integer value
  | .status line => .status line
  | .bulk text => .data (textBytes text)
  | .blob bytes => .data bytes
  | .array items => .items (Reply.toWires items)

/-- The values on the wire that make replies. -/
def Reply.toWires : List Reply → List WireValue
  | [] => []
  | item :: items => item.toWire :: Reply.toWires items

end

mutual

/-- A value on the wire with the status line `OK` written like any other line. -/
def WireValue.plain : WireValue → WireValue
  | .nil => .nil
  | .integer value => .integer value
  | .okay => .status "OK"
  | .status line => .status line
  | .data bytes => .data bytes
  | .items values => .items (WireValue.plains values)

/-- Values on the wire with the status line `OK` written like any other line. -/
def WireValue.plains : List WireValue → List WireValue
  | [] => []
  | value :: values => value.plain :: WireValue.plains values

end

theorem Reply.toWires_eq_map (items : List Reply) :
  toWires items = items.map toWire
  := by
  induction items with
  | nil => rfl
  | cons item items ih => rw [toWires, ih, List.map_cons]

/-- Bytes are known from the reply that they make. -/
theorem Reply.toWire_ofBytes (bytes : List UInt8) :
  (ofBytes bytes).toWire = .data bytes
  := by
  rcases ofBytes_cases bytes with ⟨s, hs⟩ | hblob
  · rw [hs, toWire, textBytes_eq, ← (ofBytes_eq_bulk_iff bytes s).mp hs]
  · rw [hblob, toWire]

namespace WireValue

theorem toReplies_eq_map (values : List WireValue) :
  toReplies values = values.map toReply
  := by
  induction values with
  | nil => rfl
  | cons value values ih => rw [toReplies, ih, List.map_cons]

theorem plains_eq_map (values : List WireValue) :
  plains values = values.map plain
  := by
  induction values with
  | nil => rfl
  | cons value values ih => rw [plains, ih, List.map_cons]

/-- Induction on a value, with the hypothesis for every item of an array. -/
theorem induct {P : WireValue → Prop} (nil : P .nil) (integer : ∀ n, P (.integer n))
    (okay : P .okay) (status : ∀ line, P (.status line)) (data : ∀ bytes, P (.data bytes))
    (items : ∀ values, (∀ v ∈ values, P v) → P (.items values)) :
  ∀ v, P v
  | .nil => nil
  | .integer n => integer n
  | .okay => okay
  | .status line => status line
  | .data bytes => data bytes
  | .items values => items values fun v _ => induct nil integer okay status data items v

/-- The way back from a reply leads to the value, with the status line `OK` written like any
other. -/
theorem toWire_toReply (v : WireValue) :
  v.toReply.toWire = v.plain
  := by
  induction v using WireValue.induct with
  | items values ih =>
    rw [toReply, Reply.toWire, Reply.toWires_eq_map, toReplies_eq_map, List.map_map, plain,
      plains_eq_map]
    congr 1
    apply List.map_congr_left ih
  | data bytes => rw [toReply, Reply.toWire_ofBytes, plain]
  | _ => rfl

/-- How the status line `OK` was written does not matter for the reply. -/
theorem toReply_plain (v : WireValue) :
  v.plain.toReply = v.toReply
  := by
  induction v using WireValue.induct with
  | items values ih =>
    rw [plain, toReply, toReply, plains_eq_map, toReplies_eq_map, toReplies_eq_map, List.map_map]
    congr 1
    apply List.map_congr_left ih
  | _ => rfl

/-- Nothing else is lost. -/
theorem toReply_eq_iff (v w : WireValue) :
  v.toReply = w.toReply ↔ v.plain = w.plain
  := by
  constructor
  · intro h
    rw [← toWire_toReply, h, toWire_toReply]
  · intro h
    rw [← toReply_plain, h, toReply_plain]

end WireValue

/-! ### Places in a tree -/

/-- What stands at a place of a value: the numbers lead from the whole to an item of it, to an
item of that, and so on. -/
def WireValue.at? : WireValue → List Nat → Option WireValue
  | v, [] => some v
  | .items values, i :: place => values[i]?.bind fun v => v.at? place
  | _, _ :: _ => none

/-- What stands at a place of a reply. -/
def Reply.at? : Reply → List Nat → Option Reply
  | r, [] => some r
  | .array items, i :: place => items[i]?.bind fun r => r.at? place
  | _, _ :: _ => none

/-- There is nothing below the reply that bytes make. -/
theorem Reply.at?_ofBytes (bytes : List UInt8) (i : Nat) (place : List Nat) :
  (ofBytes bytes).at? (i :: place) = none
  := by
  rcases ofBytes_cases bytes with ⟨s, hs⟩ | hblob
  · rw [hs]
    rfl
  · rw [hblob]
    rfl

namespace WireValue

/-- At each place of a reply stands what is made of the value at the same place. -/
theorem at?_toReply (v : WireValue) (place : List Nat) :
  v.toReply.at? place = (v.at? place).map toReply
  := by
  induction place generalizing v with
  | nil =>
    rw [Reply.at?, at?]
    rfl
  | cons i place ih =>
    cases v with
    | items values =>
      rw [toReply, Reply.at?, at?, toReplies_eq_map, List.getElem?_map]
      cases values[i]? with
      | none => rfl
      | some v => apply ih
    | data bytes => apply Reply.at?_ofBytes
    | _ => rfl

theorem toReply_eq_array_iff (v : WireValue) (replies : List Reply) :
  v.toReply = .array replies ↔ ∃ values, v = .items values ∧ replies = values.map toReply
  := by
  cases v with
  | items values =>
    rw [toReply, toReplies_eq_map, Reply.array.injEq]
    constructor
    · rintro rfl
      exact ⟨values, rfl, rfl⟩
    · rintro ⟨_, ⟨⟩, h⟩
      rw [h]
  | data bytes =>
    rw [toReply]
    rcases Reply.ofBytes_cases bytes with ⟨s, hs⟩ | hblob
    · simp [hs]
    · simp [hblob]
  | _ => simp [toReply]

theorem toReply_eq_bulk_iff (v : WireValue) (s : String) :
  v.toReply = .bulk s ↔ v = .data (s.toList.flatMap String.utf8EncodeChar)
  := by
  cases v with
  | data bytes => rw [toReply, Reply.ofBytes_eq_bulk_iff, data.injEq]
  | _ => simp [toReply]

theorem toReply_eq_blob_iff (v : WireValue) (bytes : List UInt8) :
  v.toReply = .blob bytes ↔
    v = .data bytes ∧ ∀ cs : List Char, bytes ≠ cs.flatMap String.utf8EncodeChar
  := by
  cases v with
  | data bytes' =>
    rw [toReply, Reply.ofBytes_eq_blob_iff, data.injEq]
    constructor
    · rintro ⟨rfl, h⟩
      exact ⟨rfl, h⟩
    · rintro ⟨rfl, h⟩
      exact ⟨rfl, h⟩
  | _ => simp [toReply]

/-- There is a way back from a reply to the value on the wire, up to how the status line `OK` was
written.  At each place an array stands where an array was, with the same items in the same order,
and bytes stand where bytes were: as text if they are the characters of one in UTF-8, and as they
are if not.  So values that make the same reply differ in the status line `OK` at most. -/
theorem toReply_keeps (v : WireValue) :
  v.toReply.toWire = v.plain ∧
  (∀ place replies, v.toReply.at? place = some (.array replies) ↔
    ∃ values, v.at? place = some (.items values) ∧ replies = values.map toReply) ∧
  (∀ place s, v.toReply.at? place = some (.bulk s) ↔
    v.at? place = some (.data (s.toList.flatMap String.utf8EncodeChar))) ∧
  (∀ place bytes, v.toReply.at? place = some (.blob bytes) ↔
    v.at? place = some (.data bytes) ∧
      ∀ cs : List Char, bytes ≠ cs.flatMap String.utf8EncodeChar) ∧
  ∀ w : WireValue, v.toReply = w.toReply ↔ v.plain = w.plain
  := by
  refine ⟨toWire_toReply v, ?_, ?_, ?_, toReply_eq_iff v⟩
  · intro place replies
    rw [at?_toReply, Option.map_eq_some_iff]
    simp only [toReply_eq_array_iff]
    constructor
    · rintro ⟨_, hplace, values, rfl, hreplies⟩
      exact ⟨values, hplace, hreplies⟩
    · rintro ⟨values, hplace, hreplies⟩
      exact ⟨.items values, hplace, values, rfl, hreplies⟩
  · intro place s
    rw [at?_toReply, Option.map_eq_some_iff]
    simp only [toReply_eq_bulk_iff, exists_eq_right]
  · intro place bytes
    rw [at?_toReply, Option.map_eq_some_iff]
    simp only [toReply_eq_blob_iff]
    constructor
    · rintro ⟨_, hplace, rfl, hbytes⟩
      exact ⟨hplace, hbytes⟩
    · rintro ⟨hplace, hbytes⟩
      exact ⟨.data bytes, hplace, rfl, hbytes⟩

example :
  (items [.data [0x6F, 0x6B], .data [0xFF], .okay]).toReply
    = .array [.bulk "ok", .blob [0xFF], .status "OK"]
  := rfl

end WireValue

end FullText
