import MusicMacro.Midi.Message.Encoding
import MusicMacro.Midi.Message.Reading
import MusicMacro.Proofs.Midi.Quantity

/-!
# Reading messages back

A message that has a binary form is its status byte followed by its data (`bytes_eq_cons`).
`Message.read?` takes such data from the front of any list and gives back the message
(`read?_data_append`); the data of a channel message starts with a byte below `0x80`
(`exists_dataByte`), which is what running status relies on.

The two ways to have no binary form are properties of the message alone: `result_encode` says that a
message is skipped iff it is system exclusive data without its first byte (`isEncodable`), and
refused iff the size of its data is no quantity (`isOversized`).
-/

namespace MusicMacro

/-! ### Bytes of an array -/

@[simp]
theorem toByteArray_byteList (data : ByteArray) : (byteList data).toByteArray = data := by
  apply ByteArray.ext
  rw [byteList, List.data_toByteArray, Array.toArray_toList]

@[simp]
theorem byteList_extract_one (data : ByteArray) :
    byteList (data.extract 1 data.size) = (byteList data).tail := by
  rw [byteList, ByteArray.data_extract, Array.toList_extract]
  show ((byteList data).drop 1).take ((byteList data).length - 1) = (byteList data).tail
  rw [List.drop_one, List.take_of_length_le (by rw [List.length_tail])]

/-! ### Status bytes and data bytes -/

/-- The status byte of a channel message holds the kind of the message and the channel, for each of
the kinds in use. -/
theorem Channel.status_spec (c : Channel) (kind : UInt8)
    (known : kind ∈ [0x80, 0x90, 0xB0, 0xC0]) :
    isChannelStatus (c.status kind) ∧ c.status kind &&& 0xF0 = kind ∧
      (⟨.ofNat 4 (c.status kind).toNat⟩ : Channel) = c := by
  have all : ∀ kind ∈ ([0x80, 0x90, 0xB0, 0xC0] : List UInt8), ∀ index : Nibble,
      isChannelStatus ((⟨index⟩ : Channel).status kind) ∧
        (⟨index⟩ : Channel).status kind &&& 0xF0 = kind ∧
        BitVec.ofNat 4 ((⟨index⟩ : Channel).status kind).toNat = index := by
    decide +kernel
  obtain ⟨channel, upper, lower⟩ := all kind known c.index
  exact ⟨channel, upper, congrArg Channel.mk lower⟩

theorem DataByte.toNat_toByte (x : DataByte) : x.toByte.toNat = x.toNat := by
  have small := x.isLt
  rw [toByte, UInt8.toNat_ofNat']
  omega

theorem DataByte.toByte_lt (x : DataByte) : x.toByte < 0x80 := by
  rw [UInt8.lt_iff_toNat_lt, toNat_toByte]
  exact x.isLt

theorem le_of_isChannelStatus {b : UInt8} (channel : isChannelStatus b) : 0x80 ≤ b := by
  rw [isChannelStatus, Bool.and_eq_true, decide_eq_true_eq] at channel
  exact channel.1

namespace Message

@[simp]
theorem takeData?_cons (x : DataByte) (rest : List UInt8) :
    takeData? (x.toByte :: rest) = some (x, rest) := by
  rw [takeData?, if_pos x.toByte_lt, x.toNat_toByte, BitVec.ofNat_toNat, BitVec.setWidth_eq]

/-! ### The binary form -/

/-- Whether a message is not system exclusive data without its first byte. -/
def isEncodable : Message → Bool
  | .sysEx data => (byteList data).head? = some 0xF0
  | _ => true

/-- Whether the size of the data of a message is no quantity. -/
def isOversized : Message → Bool
  | .text s => Quantity.bound ≤ s.toUTF8.size
  | .sequencerSpecific data => Quantity.bound ≤ data.size
  | .sysEx data => isEncodable (.sysEx data) && Quantity.bound < data.size
  | _ => false

theorem isEncodable_of_isOversized {m : Message} (large : m.isOversized) : m.isEncodable := by
  cases m with
  | sysEx data =>
    rw [isOversized, Bool.and_eq_true] at large
    exact large.1
  | _ => rfl

/-- The status byte of a message. -/
def status : Message → UInt8
  | .programChange channel _ => channel.status 0xC0
  | .controlChange channel .. => channel.status 0xB0
  | .noteOn channel .. => channel.status 0x90
  | .noteOff channel .. => channel.status 0x80
  | .sysEx _ => 0xF0
  | _ => 0xFF

/-- Data behind its size. -/
def sized (data : List UInt8) : List UInt8 :=
  Quantity.bytes data.length ++ data

/-- What stands behind the status byte of a message. -/
def data : Message → List UInt8
  | .tempo t => [0x51, 0x03] ++ BigEndian.bytes 3 t.toNat
  | .programChange _ program => [program.toByte]
  | .controlChange _ controller value => [controller.toByte, value.toByte]
  | .noteOn _ key velocity => [key.toByte, velocity.toByte]
  | .noteOff _ key velocity => [key.toByte, velocity.toByte]
  | .sysEx data => sized (byteList data).tail
  | .sequencerSpecific data => 0x7F :: sized (byteList data)
  | .text s => 0x01 :: sized (byteList s.toUTF8)
  | .endOfTrack => [0x2F, 0x00]

/-- Data of a fitting size is put out behind its size. -/
theorem encodeSized_of_lt {data : ByteArray} (small : data.size < Quantity.bound) :
    encodeSized data = ⟨#[Quantity.bytes data.size, byteList data], .ok ()⟩ := by
  rw [encodeSized, if_pos small]
  rfl

theorem encodeSized_of_le {data : ByteArray} (large : Quantity.bound ≤ data.size) :
    encodeSized data = .fail .dataTooLong := by
  rw [encodeSized, if_neg (Nat.not_lt.2 large)]

/-- System exclusive data with its first byte is put out without it. -/
theorem encode_sysEx {data : ByteArray} (start : isEncodable (.sysEx data)) :
    encode (.sysEx data) =
      Transcript.say [0xF0] >>= fun _ => encodeSized (data.extract 1 data.size) := by
  have head : (byteList data).head? = some 0xF0 := by simpa [isEncodable] using start
  obtain ⟨rest, split⟩ := List.head?_eq_some_iff.1 head
  have size : 0 < data.size := by
    rw [← length_byteList, split]
    exact Nat.succ_pos _
  have first : data[0] = 0xF0 := by
    have get : (byteList data)[0]? = some 0xF0 := by rw [split]; rfl
    rw [byteList, Array.getElem?_toList] at get
    exact (Array.getElem?_eq_some_iff.1 get).2
  rw [encode, dif_pos size, if_pos first]

theorem encode_sysEx_of_not {data : ByteArray} (start : ¬ isEncodable (.sysEx data)) :
    encode (.sysEx data) = .fail .sysExStart := by
  rw [encode]
  split
  · next size =>
    have first : data[0] ≠ 0xF0 := by
      intro first
      apply start
      have get : (byteList data)[0]? = some data[0] := by
        rw [byteList, Array.getElem?_toList]
        exact Array.getElem?_eq_getElem size
      rw [first, ← List.head?_eq_getElem?] at get
      simp [isEncodable, get]
    rw [if_neg first]
  · rfl

theorem isOversized_sysEx {data : ByteArray} (start : isEncodable (.sysEx data)) :
    isOversized (.sysEx data) ↔ Quantity.bound ≤ (data.extract 1 data.size).size := by
  rw [isOversized, start, Bool.true_and, decide_eq_true_eq, ByteArray.size_extract]
  unfold Quantity.bound
  omega

/-- How the encoding of data behind its size ends. -/
theorem result_encodeSized {data : ByteArray} {large : Prop} [Decidable large]
    (same : large ↔ Quantity.bound ≤ data.size) :
    (encodeSized data).result = if large then .error .dataTooLong else .ok () := by
  by_cases small : data.size < Quantity.bound
  · rw [encodeSized_of_lt small, if_neg (mt same.1 (Nat.not_le.2 small))]
  · rw [encodeSized_of_le (Nat.not_lt.1 small), if_pos (same.2 (Nat.not_lt.1 small))]
    rfl

/-- How the encoding of a message ends. -/
theorem result_encode (m : Message) :
    m.encode.result =
      if ¬ m.isEncodable then .error .sysExStart
      else if m.isOversized then .error .dataTooLong
      else .ok () := by
  cases m with
  | sysEx data =>
    by_cases start : isEncodable (.sysEx data)
    · rw [encode_sysEx start, if_neg (not_not.2 start), Transcript.result_bind]
      exact result_encodeSized (isOversized_sysEx start)
    · rw [encode_sysEx_of_not start, if_pos start]
      rfl
  | text s =>
    rw [encode, Transcript.result_bind]
    exact result_encodeSized decide_eq_true_iff
  | sequencerSpecific data =>
    rw [encode, Transcript.result_bind]
    exact result_encodeSized decide_eq_true_iff
  | _ => rfl

theorem result_encode_eq_ok_iff {m : Message} :
    m.encode.result = .ok () ↔ m.isEncodable ∧ ¬ m.isOversized := by
  rw [result_encode]
  split
  · next start => simp [start]
  · next start =>
    split
    · next large => simp [large]
    · next small => simp_all

/-- **The binary form of a message** is its status byte followed by its data. -/
theorem bytes_eq_cons {m : Message} (encodes : m.encode.result = .ok ()) :
    m.bytes = m.status :: m.data := by
  obtain ⟨start, small⟩ := result_encode_eq_ok_iff.1 encodes
  -- Only data behind its size comes in several portions; any other message is one portion.
  cases m with
  | sysEx data =>
    have fits : (data.extract 1 data.size).size < Quantity.bound :=
      Nat.not_le.1 (mt (isOversized_sysEx start).2 small)
    rw [bytes, encode_sysEx start, encodeSized_of_lt fits, ← length_byteList, byteList_extract_one]
    show [0xF0] ++ (Quantity.bytes (byteList data).tail.length ++ ((byteList data).tail ++ [])) = _
    rw [List.append_nil]
    rfl
  | text s =>
    have fits : s.toUTF8.size < Quantity.bound := by simpa [isOversized] using small
    rw [bytes, encode, encodeSized_of_lt fits]
    show [0xFF, 0x01] ++
      (Quantity.bytes (byteList s.toUTF8).length ++ (byteList s.toUTF8 ++ [])) = _
    rw [List.append_nil]
    rfl
  | sequencerSpecific data =>
    have fits : data.size < Quantity.bound := by simpa [isOversized] using small
    rw [bytes, encode, encodeSized_of_lt fits]
    show [0xFF, 0x7F] ++ (Quantity.bytes (byteList data).length ++ (byteList data ++ [])) = _
    rw [List.append_nil]
    rfl
  | _ => rfl

/-! ### Reading -/

theorem takeSized?_sized_append {data : List UInt8} (small : data.length < Quantity.bound)
    (rest : List UInt8) : takeSized? (sized data ++ rest) = some (data, rest) := by
  have fits : data.length ≤ (data ++ rest).length := by
    rw [List.length_append]
    exact Nat.le_add_right ..
  rw [takeSized?, sized, List.append_assoc, Quantity.read?_bytes_append small]
  show (if data.length ≤ (data ++ rest).length then
    some ((data ++ rest).take data.length, (data ++ rest).drop data.length) else none) = _
  rw [if_pos fits, List.take_left, List.drop_left]

theorem ofMeta?_tempo (t : Tempo) : ofMeta? 0x51 (BigEndian.bytes 3 t.toNat) = some (.tempo t) := by
  show (if (BigEndian.bytes 3 t.toNat).length = 3 then
    some (Message.tempo (.ofNat 24 (BigEndian.value (BigEndian.bytes 3 t.toNat)))) else none) = _
  rw [if_pos (BigEndian.length_bytes ..), BigEndian.value_bytes (w := 3) t, BitVec.ofNat_toNat,
    BitVec.setWidth_eq]

theorem ofMeta?_text (s : String) : ofMeta? 0x01 (byteList s.toUTF8) = some (.text s) := by
  show (String.fromUTF8? (byteList s.toUTF8).toByteArray).map Message.text = _
  rw [toByteArray_byteList, String.fromUTF8?]
  exact congrArg (Option.map text) (dif_pos s.isValidUTF8)

theorem readMeta?_sized_append {type : UInt8} {data : List UInt8} {m : Message}
    (means : ofMeta? type data = some m) (small : data.length < Quantity.bound)
    (rest : List UInt8) : readMeta? (type :: (sized data ++ rest)) = some (m, rest) := by
  rw [readMeta?, takeSized?_sized_append small]
  show (ofMeta? type data).bind (fun m => some (m, rest)) = _
  rw [means]
  rfl

theorem read?_meta (l : List UInt8) : read? 0xFF l = readMeta? l := by
  rw [read?, if_neg (by decide), if_neg (by decide), if_pos rfl]

theorem read?_sysEx (l : List UInt8) : read? 0xF0 l = readSysEx? l := by
  rw [read?, if_neg (by decide), if_pos rfl]

/-- **Messages are read back** from their data, whatever follows it. -/
theorem read?_data_append {m : Message} (encodes : m.encode.result = .ok ()) (rest : List UInt8) :
    read? m.status (m.data ++ rest) = some (m, rest) := by
  obtain ⟨start, small⟩ := result_encode_eq_ok_iff.1 encodes
  cases m with
  | tempo t =>
    have three : (BigEndian.bytes 3 t.toNat).length = 3 := BigEndian.length_bytes ..
    -- The size of a tempo is a constant in its data: three is a quantity of one byte.
    have data : data (.tempo t) ++ rest = 0x51 :: (sized (BigEndian.bytes 3 t.toNat) ++ rest) := by
      rw [sized, three]
      rfl
    rw [data]
    exact (read?_meta _).trans
      (readMeta?_sized_append (ofMeta?_tempo t) (by rw [three]; decide) rest)
  | endOfTrack =>
    have reads : readMeta? (0x2F :: (sized [] ++ rest)) = some (.endOfTrack, rest) :=
      readMeta?_sized_append rfl (by decide) rest
    exact (read?_meta _).trans reads
  | text s =>
    have fits : (byteList s.toUTF8).length < Quantity.bound := by
      simpa [isOversized] using small
    exact (read?_meta _).trans (readMeta?_sized_append (ofMeta?_text s) fits rest)
  | sequencerSpecific data =>
    have fits : (byteList data).length < Quantity.bound := by simpa [isOversized] using small
    have means : ofMeta? 0x7F (byteList data) = some (.sequencerSpecific data) := by
      show some (sequencerSpecific (byteList data).toByteArray) = _
      rw [toByteArray_byteList]
    exact (read?_meta _).trans (readMeta?_sized_append means fits rest)
  | sysEx data =>
    have fits : (byteList data).tail.length < Quantity.bound := by
      rw [← byteList_extract_one]
      exact Nat.not_le.1 (mt (isOversized_sysEx start).2 small)
    have head : (byteList data).head? = some 0xF0 := by simpa [isEncodable] using start
    obtain ⟨tail, split⟩ := List.head?_eq_some_iff.1 head
    -- The reader puts back the first byte, which is the status byte.
    have whole : 0xF0 :: (byteList data).tail = byteList data := by rw [split, List.tail_cons]
    show read? 0xF0 (sized (byteList data).tail ++ rest) = _
    rw [read?_sysEx, readSysEx?, takeSized?_sized_append fits]
    show some (sysEx (0xF0 :: (byteList data).tail).toByteArray, rest) = _
    rw [whole, toByteArray_byteList]
  | programChange channel program =>
    obtain ⟨isChannel, kind, index⟩ := channel.status_spec 0xC0 (by decide)
    simp [read?, status, data, readChannel?, isChannel, kind, index]
  | controlChange channel controller value =>
    obtain ⟨isChannel, kind, index⟩ := channel.status_spec 0xB0 (by decide)
    simp [read?, status, data, readChannel?, isChannel, kind, index]
  | noteOn channel key velocity =>
    obtain ⟨isChannel, kind, index⟩ := channel.status_spec 0x90 (by decide)
    simp [read?, status, data, readChannel?, isChannel, kind, index]
  | noteOff channel key velocity =>
    obtain ⟨isChannel, kind, index⟩ := channel.status_spec 0x80 (by decide)
    simp [read?, status, data, readChannel?, isChannel, kind, index]

/-- Only channel messages have the status byte of one. -/
theorem status_eq (m : Message) : isChannelStatus m.status ∨ m.status = 0xF0 ∨ m.status = 0xFF := by
  cases m with
  | programChange channel _ => exact .inl (channel.status_spec 0xC0 (by decide)).1
  | controlChange channel _ _ => exact .inl (channel.status_spec 0xB0 (by decide)).1
  | noteOn channel _ _ => exact .inl (channel.status_spec 0x90 (by decide)).1
  | noteOff channel _ _ => exact .inl (channel.status_spec 0x80 (by decide)).1
  | sysEx _ => exact .inr (.inl rfl)
  | tempo | text | sequencerSpecific | endOfTrack => exact .inr (.inr rfl)

theorem le_status (m : Message) : 0x80 ≤ m.status := by
  rcases m.status_eq with channel | start | tag
  · exact le_of_isChannelStatus channel
  · rw [start]
    decide
  · rw [tag]
    decide

/-- The data of a channel message starts with a byte below `0x80`. -/
theorem exists_dataByte {m : Message} (channel : isChannelStatus m.status) :
    ∃ b rest, m.data = b :: rest ∧ b < 0x80 := by
  cases m with
  | programChange _ program => exact ⟨_, _, rfl, program.toByte_lt⟩
  | controlChange _ controller _ => exact ⟨_, _, rfl, controller.toByte_lt⟩
  | noteOn _ key _ => exact ⟨_, _, rfl, key.toByte_lt⟩
  | noteOff _ key _ => exact ⟨_, _, rfl, key.toByte_lt⟩
  | sysEx _ => exact absurd (show isChannelStatus 0xF0 from channel) (by decide)
  | tempo | text | sequencerSpecific | endOfTrack =>
    exact absurd (show isChannelStatus 0xFF from channel) (by decide)

end Message

end MusicMacro
