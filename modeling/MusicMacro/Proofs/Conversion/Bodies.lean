import MusicMacro.Proofs.Conversion.Faults

/-!
# The bodies of voices

What a voice plays depends on its score, on the place of that score and on the note range alone: the
instruments, the division, the controllers and the preamble are not looked at.  So conversions that
agree in the former (`Conversion.Alike`) succeed alike, and their tracks have the same bodies behind
openings of their own (`Conversion.toFile_of_alike`).
-/

namespace MusicMacro.Conversion

/-! ### What all tracks of a file are made of -/

/-- What the voice of track `i` plays. -/
def bodyOf? (p : Policy) (c : Conversion) (i : Nat) : Option Track := do
  let text ← c.scores[i / 3]?
  let s ← Score.ofText? text
  let voice ← s.voices[i % 3]?
  let range ← (rangeOf c.options).toOption
  (Part.body p ⟨⟨.ofNat 4 (i / 3)⟩, range⟩ voice).result.toOption

/-- What the voice of track `i` plays, which is nothing if there is no such voice. -/
def bodyOf (p : Policy) (c : Conversion) (i : Nat) : Track :=
  (c.bodyOf? p i).getD []

/-- The part that plays a score. -/
def partOf (c : Conversion) (score : Nat) : Part where
  channel := ⟨.ofNat 4 score⟩
  program := c.instruments.getD score 0
  pan := c.options.pan
  effect := c.options.effect

/-- What stands before the voice in track `i`. -/
def openingOf (c : Conversion) (i : Nat) : Track :=
  (c.partOf (i / 3)).opening (preambleOf c.options (i / 3) (i % 3))

/-- The file of a conversion whose voices play the given bodies. -/
def fileOf (c : Conversion) (body : Nat → Track) : MidiFile :=
  let tracks := (List.range (3 * c.scores.length)).map fun i => c.openingOf i ++ body i
  ⟨⟨.ofTrackCount tracks.length, c.options.division⟩, tracks⟩

theorem length_fileOf (c : Conversion) (body : Nat → Track) :
    (c.fileOf body).tracks.length = 3 * c.scores.length := by
  rw [fileOf, List.length_map, List.length_range]

theorem getElem?_fileOf {c : Conversion} {i : Nat} (reached : i < 3 * c.scores.length)
    (body : Nat → Track) : (c.fileOf body).tracks[i]? = some (c.openingOf i ++ body i) := by
  rw [fileOf, List.getElem?_map, List.getElem?_range reached]
  rfl

theorem voicesOf_eq_ok_iff {score : Nat} {text : String} {s : Score} :
    voicesOf score text = .ok s ↔ Score.ofText? text = some s := by
  rw [voicesOf_eq]
  cases Score.ofText? text <;> simp

/-- A track of a converted file is its opening and the body of its voice. -/
theorem track_eq {p : Policy} {c : Conversion} {file : MidiFile}
    (converts : (c.toFile p).result = .ok file) {i : Nat} {track : Track}
    (at_i : file.tracks[i]? = some track) : track = c.openingOf i ++ c.bodyOf p i := by
  obtain ⟨-, -, few⟩ := checkCounts_eq_ok (toFile_eq_ok converts).1
  obtain ⟨length, tracks⟩ := exists_score_of_track converts
  obtain ⟨text, program, channel, range, s, voice, body, hasText, hasProgram, hasChannel, hasRange,
    hasVoices, hasVoice, plays, same⟩ := tracks i track at_i
  -- There are at most sixteen scores, so each has the channel of its number.
  have small : i / 3 < 16 := by
    obtain ⟨reached, -⟩ := List.getElem?_eq_some_iff.1 at_i
    unfold largestCount at few
    omega
  rw [channelOf_eq_ok small] at hasChannel
  cases hasChannel
  have bodyEq : c.bodyOf p i = body := by
    unfold bodyOf bodyOf?
    rw [hasText, Option.bind_eq_bind, Option.bind_some, voicesOf_eq_ok_iff.1 hasVoices,
      Option.bind_eq_bind, Option.bind_some, hasVoice, hasRange]
    exact congrArg (Option.getD · []) (except_toOption_eq_some_iff.2 plays)
  have partEq : c.partOf (i / 3) =
      ⟨⟨.ofNat 4 (i / 3)⟩, program, c.options.pan, c.options.effect⟩ := by
    rw [partOf, List.getD_eq_getElem?_getD, hasProgram]
    rfl
  rw [bodyEq, openingOf, partEq]
  exact same

/-- **A converted file** is made of the bodies of its voices. -/
theorem eq_fileOf {p : Policy} {c : Conversion} {file : MidiFile}
    (converts : (c.toFile p).result = .ok file) : file = c.fileOf (c.bodyOf p) := by
  obtain ⟨-, header, -⟩ := toFile_eq_ok converts
  obtain ⟨length, -⟩ := exists_score_of_track converts
  have tracks : file.tracks = (c.fileOf (c.bodyOf p)).tracks := by
    refine List.ext_getElem ?_ fun i reached _ => ?_
    · rw [length, length_fileOf]
    · rw [track_eq converts (List.getElem?_eq_getElem reached)]
      simp only [fileOf, List.getElem_map, List.getElem_range]
  show (⟨file.header, file.tracks⟩ : MidiFile) = _
  rw [header, tracks]
  rfl

/-! ### Conversions alike -/

/-- Conversions of the same scores in the same note range, and with as many instruments. -/
structure Alike (c c' : Conversion) : Prop where
  scores : c'.scores = c.scores
  count : c'.instruments.length = c.instruments.length
  lowest : c'.options.lowest = c.options.lowest
  highest : c'.options.highest = c.options.highest

/-- The fault of a conversion depends on its scores and its note range alone. -/
theorem Alike.fault? {c c' : Conversion} (alike : c.Alike c') (p : Policy) :
    c'.fault? p = c.fault? p := by
  obtain ⟨scores, instruments, division, pan, effect, lowest, highest, preamble⟩ := c
  obtain ⟨scores', instruments', division', pan', effect', lowest', highest', preamble'⟩ := c'
  obtain ⟨rfl, count, rfl, rfl⟩ := alike
  unfold Conversion.fault?
  rw [count]
  rfl

theorem Alike.bodyOf {c c' : Conversion} (alike : c.Alike c') (p : Policy) :
    c'.bodyOf p = c.bodyOf p := by
  obtain ⟨scores, instruments, division, pan, effect, lowest, highest, preamble⟩ := c
  obtain ⟨scores', instruments', division', pan', effect', lowest', highest', preamble'⟩ := c'
  obtain ⟨rfl, count, rfl, rfl⟩ := alike
  rfl

theorem Alike.header_fileOf {c c' : Conversion} (alike : c.Alike c')
    (division : c'.options.division = c.options.division) (body : Nat → Track) :
    (c'.fileOf body).header = (c.fileOf body).header := by
  have count : (c'.fileOf body).tracks.length = (c.fileOf body).tracks.length := by
    rw [length_fileOf, length_fileOf, alike.scores]
  show (⟨.ofTrackCount (c'.fileOf body).tracks.length, c'.options.division⟩ : Header) = _
  rw [count, division]
  rfl

/-- **A conversion alike** to one that has a file has a file as well, with the same bodies behind
openings of its own. -/
theorem toFile_of_alike {p : Policy} {c c' : Conversion} (alike : c.Alike c') {file : MidiFile}
    (converts : (c.toFile p).result = .ok file) :
    (c'.toFile p).result = .ok (c'.fileOf (c.bodyOf p)) := by
  -- Neither conversion has a fault, since the fault does not depend on the other options.
  have sound : c'.fault? p = none := by
    rw [alike.fault? p, ← faultOf_toFile, converts]
    rfl
  rw [← faultOf_toFile, faultOf_eq_none_iff] at sound
  obtain ⟨file', converts'⟩ := sound
  rw [converts', eq_fileOf converts', alike.bodyOf p]

end MusicMacro.Conversion
