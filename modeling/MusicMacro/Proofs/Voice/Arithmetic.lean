import MusicMacro.Proofs.Transcript
import MusicMacro.Proofs.Voice.Events

/-!
# Playing a voice in fixed width

`VoiceState.apply` computes with numbers of any size.  `Checked.apply` plays the same token in
numbers of fixed width, as a machine has them: lengths in 32 bits, volumes and keys in 8, notes and
octaves in 64 with a sign.  Every result has to fit where it is kept and nothing may be divided by
zero, or the computation goes wrong; the time alone is checked by the voice itself.

`Checked.apply_eq` says that nothing goes wrong where length, volume and octave are within their
bounds, and that the outcome is the same.  Since no voice leaves those bounds, none ever overflows
(`apply_of_run`).
-/

namespace MusicMacro

/-- Why a computation in fixed width goes wrong. -/
inductive ArithmeticFault where
  /-- A result needs more bits than there are. -/
  | overflow
  | divisionByZero
deriving DecidableEq, Repr

/-- A computation in fixed width. -/
abbrev Checked (α : Type) := Except ArithmeticFault α

namespace Checked

/-! ### Results of fixed width -/

/-- A result that is kept in `w` bits. -/
def unsigned (w : Nat) (n : Int) : Checked Nat :=
  let kept := (BitVec.ofInt w n).toNat
  if kept = n then .ok kept else .error .overflow

/-- A result that is kept in `w` bits, with a sign. -/
def signed (w : Nat) (n : Int) : Checked Int :=
  let kept := (BitVec.ofInt w n).toInt
  if kept = n then .ok kept else .error .overflow

/-- A quotient. -/
def quotient (m n : Nat) : Checked Nat :=
  if n = 0 then .error .divisionByZero else .ok (m / n)

theorem unsigned_eq {w m : Nat} (fits : m < 2 ^ w) : unsigned w m = .ok m := by
  have kept : (BitVec.ofInt w m).toNat = m := by
    rw [BitVec.ofInt_natCast, BitVec.toNat_ofNat, Nat.mod_eq_of_lt fits]
  rw [unsigned, kept, if_pos rfl]

theorem signed_eq {n : Int} (low : -9223372036854775808 ≤ n) (high : n ≤ 9223372036854775807) :
    signed 64 n = .ok n := by
  have kept : (BitVec.ofInt 64 n).toInt = n :=
    BitVec.toInt_ofInt_eq_self (by decide) (by omega) (by omega)
  rw [signed, kept, if_pos rfl]

theorem quotient_eq {m n : Nat} (nonzero : n ≠ 0) : quotient m n = .ok (m / n) :=
  if_neg nonzero

/-! ### Lengths and tempos -/

/-- A length with its dot, if it has one, in 32 bits. -/
def withDot (ticks : Nat) (dotted : Bool) : Checked Nat :=
  if dotted then unsigned 32 ↑(ticks + ticks / 2) else .ok ticks

/-- The ticks that the number of a token stands for, if the whole note may be divided by it. -/
def ticks? (t : Token) : Checked (Option Nat) :=
  match t.number? with
  | some n =>
    if 1 ≤ n ∧ n ≤ largestDivisor then (quotient ticksPerWhole n).map some else .ok none
  | none => .ok none

/-- The ticks of a note or a rest. -/
def ticks (t : Token) (standard : Nat) : Checked Nat := do
  let given ← ticks? t
  withDot (given.getD standard) t.dotted

/-- The tempo that the number of a token stands for, if it is one. -/
def tempo? (t : Token) : Checked (Option Tempo) :=
  match t.number? with
  | some n =>
    if 0 < n then
      (quotient microsecondsPerMinute n).map fun us => if 0 < us then Word.ofNat? 24 us else none
    else .ok none
  | none => .ok none

theorem withDot_eq {ticks : Nat} (short : ticks ≤ 576) (dotted : Bool) :
    withDot ticks dotted = .ok (MusicMacro.withDot ticks dotted) := by
  cases dotted with
  | false => rfl
  | true => exact unsigned_eq (show ticks + ticks / 2 < 4294967296 by omega)

theorem ticks?_eq (t : Token) : ticks? t = .ok t.ticks? := by
  unfold ticks? Token.ticks?
  cases t.number? with
  | none => rfl
  | some n =>
    show (if 1 ≤ n ∧ n ≤ largestDivisor then _ else _) = Except.ok (ticksOfDivisor? n)
    unfold ticksOfDivisor?
    split
    · next valid =>
      rw [quotient_eq (Nat.ne_of_gt valid.1)]
      rfl
    · rfl

theorem ticks_eq (t : Token) {standard : Nat} (short : standard ≤ 576) :
    ticks t standard = .ok (t.ticks standard) := by
  have base : t.ticks?.getD standard ≤ 576 := by
    cases gives : t.ticks? with
    | none => exact short
    | some given => exact Nat.le_trans (Token.ticks?_bounds gives).2 (by decide)
  rw [ticks, ticks?_eq, except_ok_bind]
  exact withDot_eq base t.dotted

theorem tempo?_eq (t : Token) : tempo? t = .ok t.tempo? := by
  unfold tempo? Token.tempo?
  cases t.number? with
  | none => rfl
  | some n =>
    show (if 0 < n then _ else _) = Except.ok (if 0 < microsecondsPerMinute / n then _ else _)
    split
    · next positive =>
      rw [quotient_eq (Nat.ne_of_gt positive)]
      rfl
    · next zero =>
      -- A tempo of zero is turned away before it divides the minute.
      obtain rfl : n = 0 := by omega
      rfl

/-! ### Notes and keys -/

/-- The raw note for a note name, with a sign. -/
def noteNumber (octave : Nat) (name : NoteName) (accidental : Option Accidental) : Checked Int := do
  let octaves ← signed 64 (12 * octave)
  let tone ← signed 64 (name.semitones + (accidental.map Accidental.semitones).getD 0)
  signed 64 (octaves + tone)

/-- The semitones of the fewest octaves that make up for a distance. -/
def octavesOver (distance : Int) : Checked Int := do
  let rounded ← signed 64 (distance + 11)
  signed 64 (12 * rounded.tdiv 12)

/-- Moves a note below the range up into it, the distance and the shift being kept on the way. -/
def raise (r : NoteRange) (note : Int) : Checked Int :=
  if note < r.lowest then do
    let distance ← signed 64 (r.lowest - note)
    let shift ← octavesOver distance
    signed 64 (note + shift)
  else .ok note

/-- Moves a note above the range down into it in the same way. -/
def lower (r : NoteRange) (note : Int) : Checked Int :=
  if r.highest < note then do
    let distance ← signed 64 (note - r.highest)
    let shift ← octavesOver distance
    signed 64 (note - shift)
  else .ok note

/-- The key for a note: a byte, of which a message holds seven bits. -/
def key (r : NoteRange) (note : Int) : Checked DataByte := do
  let raised ← raise r note
  let folded ← lower r raised
  let moved ← signed 64 (folded + NoteRange.keyOffset)
  let byte ← unsigned 8 moved
  let bits ← unsigned 7 byte
  return .ofNat 7 bits

/-- How far the note of a token lies above the lowest one of its octave. -/
theorem tone_bounds (name : NoteName) (accidental : Option Accidental) :
    -1 ≤ name.semitones + (accidental.map Accidental.semitones).getD 0 ∧
      name.semitones + (accidental.map Accidental.semitones).getD 0 ≤ 12 := by
  cases name <;> rcases accidental with _ | _ | _ | _ <;> decide

/-- The notes that a voice can give. -/
theorem noteNumber_bounds {s : VoiceState} (high : s.octave ≤ 4294967295) (name : NoteName)
    (accidental : Option Accidental) :
    -1 ≤ s.noteNumber name accidental ∧
      s.noteNumber name accidental ≤ 12 * 4294967295 + 12 := by
  obtain ⟨low, up⟩ := tone_bounds name accidental
  unfold VoiceState.noteNumber
  omega

theorem noteNumber_eq {s : VoiceState} (high : s.octave ≤ 4294967295) (name : NoteName)
    (accidental : Option Accidental) :
    noteNumber s.octave name accidental = .ok (s.noteNumber name accidental) := by
  obtain ⟨low, up⟩ := tone_bounds name accidental
  rw [noteNumber, signed_eq (by omega) (by omega), except_ok_bind,
    signed_eq (by omega) (by omega), except_ok_bind, signed_eq (by omega) (by omega)]
  rfl

theorem octavesOver_eq {distance : Int} (low : 0 ≤ distance)
    (high : distance ≤ 12 * 4294967295 + 12) :
    octavesOver distance = .ok (12 * ((distance + 11) / 12)) := by
  have positive : 0 ≤ distance + 11 := by omega
  rw [octavesOver, signed_eq (by omega) (by omega), except_ok_bind,
    Int.tdiv_eq_ediv_of_nonneg positive, signed_eq (by omega) (by omega)]

theorem raise_eq (r : NoteRange) {note : Int} (low : -1 ≤ note)
    (high : note ≤ 12 * 4294967295 + 12) :
    raise r note = .ok (r.raise note) := by
  have octave := r.octave_le
  have top := r.highest_le
  unfold raise NoteRange.raise
  split
  · rw [signed_eq (by omega) (by omega), except_ok_bind, octavesOver_eq (by omega) (by omega),
      except_ok_bind, signed_eq (by omega) (by omega)]
  · rfl

theorem lower_eq (r : NoteRange) {note : Int} (low : -1 ≤ note)
    (high : note ≤ 12 * 4294967295 + 12) :
    lower r note = .ok (r.lower note) := by
  unfold lower NoteRange.lower
  split
  · rw [signed_eq (by omega) (by omega), except_ok_bind, octavesOver_eq (by omega) (by omega),
      except_ok_bind, signed_eq (by omega) (by omega)]
  · rfl

theorem key_eq (r : NoteRange) {note : Int} (low : -1 ≤ note)
    (high : note ≤ 12 * 4294967295 + 12) :
    key r note = .ok (r.key note) := by
  have octave := r.octave_le
  have top := r.highest_le
  obtain ⟨above, below⟩ := r.fold_mem note
  have raised : -1 ≤ r.raise note ∧ r.raise note ≤ 12 * 4294967295 + 12 := by
    unfold NoteRange.raise
    split <;> omega
  -- The note in the range, moved up by an octave, is the key, and the key has seven bits.
  have moved : r.fold note + NoteRange.keyOffset = ((r.key note).toNat : Int) :=
    (r.toNat_key note).symm
  have small := (r.key note).isLt
  rw [key, raise_eq r low high, except_ok_bind, lower_eq r raised.1 raised.2, except_ok_bind]
  show (signed 64 (r.fold note + NoteRange.keyOffset) >>= _) = _
  rw [moved, signed_eq (by omega) (by omega), except_ok_bind,
    unsigned_eq (Nat.lt_trans small (by decide)), except_ok_bind, unsigned_eq small, except_ok_bind,
    BitVec.ofNat_toNat, BitVec.setWidth_eq]
  rfl

/-! ### Octaves and volumes -/

/-- The octave below, which is negative for a moment below octave zero. -/
def octaveDown (octave : Nat) : Checked Nat :=
  (signed 64 (octave - 1)).map fun n => (max n 0).toNat

/-- The octave above, computed before it is cut off. -/
def octaveUp (octave : Nat) : Checked Nat :=
  (signed 64 (octave + 1)).map fun n => (min n (VoiceState.highestOctave : Int)).toNat

/-- The volume nearest to a number, as a byte. -/
def clampVolume (n : Nat) : Checked Nat :=
  unsigned 8 ↑(VoiceState.clampVolume n)

/-- The velocity of a volume: a byte, of which a message holds seven bits. -/
def velocity (volume : Nat) : Checked DataByte := do
  let byte ← unsigned 8 ↑(8 * volume)
  let bits ← unsigned 7 byte
  return .ofNat 7 bits

theorem octaveDown_eq {octave : Nat} (high : octave ≤ 4294967295) :
    octaveDown octave = .ok (octave - 1) := by
  rw [octaveDown, signed_eq (by omega) (by omega)]
  show Except.ok (max ((octave : Int) - 1) 0).toNat = _
  congr 1
  omega

theorem octaveUp_eq {octave : Nat} (high : octave ≤ 4294967295) :
    octaveUp octave = .ok (min (octave + 1) VoiceState.highestOctave) := by
  rw [octaveUp, signed_eq (by omega) (by omega)]
  show Except.ok (min ((octave : Int) + 1) VoiceState.highestOctave).toNat = _
  congr 1
  omega

theorem clampVolume_eq (n : Nat) : clampVolume n = .ok (VoiceState.clampVolume n) := by
  have small := (VoiceState.clampVolume_bounds n).2
  exact unsigned_eq (show _ < 256 by omega)

theorem velocity_eq {volume : Nat} (small : volume ≤ 15) :
    velocity volume = .ok (VoiceState.velocity volume) := by
  rw [velocity, unsigned_eq (show _ < 256 by omega), except_ok_bind,
    unsigned_eq (show _ < 128 by omega), except_ok_bind]
  rfl

/-! ### Tokens -/

/-- Starts a key, unless it is held. -/
def press (s : VoiceState) (channel : Channel) (key : DataByte) : Checked VoiceState :=
  if s.tied.isSome then .ok s
  else (velocity s.volume).map fun velocity => s.emit (.noteOn channel key velocity)

/-- Plays a key for some ticks. -/
def play (s : VoiceState) (channel : Channel) (key : DataByte) (ticks : Nat) (tie : Bool) :
    Checked (Except VoiceFault VoiceState) :=
  (press (s.releaseOther channel key) channel key).map fun s => do
    let s ← s.advance ticks
    return s.lift channel key tie

/-- What a token does. -/
def apply (c : Setting) (s : VoiceState) (t : Token) : Checked (Except VoiceFault VoiceState) :=
  match t.command with
  | .note name => do
    let length ← ticks t s.length
    let note ← noteNumber s.octave name t.accidental
    let key ← key c.range note
    play s c.channel key length t.tied
  | .key => do
    let key ← key c.range (VoiceState.keyNumber c.range.highest t.number?)
    play s c.channel key s.length t.tied
  | .rest => (ticks t s.length).map s.advance
  | .length => do
    match ← ticks? t with
    | some given =>
      let length ← withDot given t.dotted
      let s := { s with length }
      return .ok (if t.tied then s.tieBack else s)
    | none => return .ok s
  | .octave => .ok (.ok { s with octave := t.number?.getD 0 })
  | .octaveDown => (octaveDown s.octave).map fun octave => .ok { s with octave }
  | .octaveUp => (octaveUp s.octave).map fun octave => .ok { s with octave }
  | .tempo => do
    match ← tempo? t with
    | some tempo => return .ok (s.emit (.tempo tempo))
    | none => return .ok s
  | .volume => (clampVolume (t.number?.getD 0)).map fun volume => .ok { s with volume }

theorem press_eq {s : VoiceState} (quiet : s.volume ≤ 15) (channel : Channel) (key : DataByte) :
    press s channel key = .ok (s.press channel key) := by
  unfold press VoiceState.press
  split
  · rfl
  · rw [velocity_eq quiet]
    rfl

theorem play_eq {s : VoiceState} (quiet : s.volume ≤ 15) (channel : Channel) (key : DataByte)
    (ticks : Nat) (tie : Bool) :
    play s channel key ticks tie = .ok (s.play channel key ticks tie) := by
  have volume : (s.releaseOther channel key).volume = s.volume :=
    congrArg Playhead.volume (s.playhead_releaseOther channel key)
  rw [play, press_eq (volume ▸ quiet)]
  rfl

/-- **A token is played in fixed width** as it is in numbers of any size, if length, volume and
octave are within their bounds. -/
theorem apply_eq {c : Setting} {s : VoiceState} (bounded : s.playhead.Bounded) (t : Token) :
    apply c s t = .ok (s.apply c t) := by
  have short : s.length ≤ 576 := bounded.length_le
  have quiet : s.volume ≤ 15 := bounded.volume_le
  have high : s.octave ≤ 4294967295 := bounded.octave_le
  unfold apply VoiceState.apply
  cases t.command with
  | note name =>
    have bounds := noteNumber_bounds high name t.accidental
    simp only [ticks_eq t short, noteNumber_eq high, key_eq c.range bounds.1 bounds.2,
      except_ok_bind]
    exact play_eq quiet ..
  | key =>
    have number := VoiceState.keyNumber_le c.range.highest t.number?
    have top := c.range.highest_le
    have folded : key c.range (VoiceState.keyNumber c.range.highest t.number?) =
        .ok (c.range.key (VoiceState.keyNumber c.range.highest t.number?)) :=
      key_eq c.range (by omega) (by omega)
    simp only [folded, except_ok_bind]
    exact play_eq quiet ..
  | rest =>
    simp only [ticks_eq t short]
    rfl
  | length =>
    simp only [ticks?_eq, except_ok_bind]
    cases gives : t.ticks? with
    | none => rfl
    | some given =>
      have long := (Token.ticks?_bounds gives).2
      simp only [withDot_eq (Nat.le_trans long (by decide)), except_ok_bind]
      rfl
  | octave => rfl
  | octaveDown =>
    simp only [octaveDown_eq high]
    rfl
  | octaveUp =>
    simp only [octaveUp_eq high]
    rfl
  | tempo =>
    simp only [tempo?_eq, except_ok_bind]
    cases t.tempo? <;> rfl
  | volume =>
    simp only [clampVolume_eq]
    rfl

/-! ### Whole voices -/

/-- **Voices stay within their words.**  Let a voice have come to some state, under either policy,
from any time and with any lexemes.  Its standard length then lies between two ticks and a dotted
whole note, its volume between one and fifteen, its octave is a number that a token can give, and a
held key is one of the range.  Whatever token comes next is played in fixed width, without overflow
or a division by zero, as it is in numbers of any size. -/
theorem apply_of_run {p : Policy} {c : Setting} {start : Nat} {ls : List Lexeme} {s : VoiceState}
    (reached : (Transcript.run (VoiceState.step p c) { time := start } ls).result = .ok s) :
    (2 ≤ s.length ∧ s.length ≤ 576) ∧
      (1 ≤ s.volume ∧ s.volume ≤ 15) ∧
      s.octave ≤ 4294967295 ∧
      (∀ key, s.tied = some key →
        c.range.lowest + 12 ≤ key.toNat ∧ key.toNat ≤ c.range.highest + 12) ∧
      ∀ t, apply c s t = .ok (s.apply c t) := by
  have valid : s.Valid c start :=
    (VoiceState.Valid.initial c start).applyAll (VoiceState.applyAll_of_run reached)
  have bounded := valid.bounded
  exact ⟨⟨bounded.two_le_length, bounded.length_le⟩, ⟨bounded.one_le_volume, bounded.volume_le⟩,
    bounded.octave_le, valid.held, apply_eq bounded⟩

/-- The largest length, volume and octave there are, with the highest note of that octave. -/
theorem apply_of_run_largest :
    ∃ s, (Transcript.run (VoiceState.step .strict ⟨⟨0⟩, .standard⟩) { time := 5 }
        (Lexeme.ofVoice "o4294967295 l1. v99 b+&")).result = .ok s ∧
      s.length = 576 ∧ s.volume = 15 ∧ s.octave = 4294967295 ∧ s.tied = some 108 ∧
      s.noteNumber .b (some .sharp) = 51539607552 ∧
      apply ⟨⟨0⟩, .standard⟩ s ⟨.note .b, 'b', some .sharp, [], true, false⟩ =
        .ok (s.apply ⟨⟨0⟩, .standard⟩ ⟨.note .b, 'b', some .sharp, [], true, false⟩) := by
  have reached : (Transcript.run (VoiceState.step .strict ⟨⟨0⟩, .standard⟩) { time := 5 }
      (Lexeme.ofVoice "o4294967295 l1. v99 b+&")).result =
        .ok ⟨4294967295, 576, 15, some 108, 581, [⟨5, .noteOn ⟨0⟩ 108 120⟩]⟩ := by
    decide +kernel
  obtain ⟨-, -, -, -, plays⟩ := apply_of_run reached
  exact ⟨_, reached, rfl, rfl, rfl, rfl, by decide, plays _⟩

end Checked

end MusicMacro
