import MusicMacro.Proofs.Conversion.Tracks
import MusicMacro.Proofs.Voice.Events

/-!
# Well-formed tracks

`Conversion.wellFormed_of_toFile`: every track of a converted file is in order, ends once and at its
end, speaks on the channel of its score alone, and plays notes in pairs within the range and the
volumes of the conversion (`Track.WellFormed`).  The setup and the preamble stand before the time at
which the voice starts, so nothing of the voice is out of order with them.
-/

namespace MusicMacro

/-- What a message of a track may say, given the number of its channel and the lowest and the
highest note. -/
def Message.Fits (channel lowest highest : Nat) : Message → Prop
  | programChange c _ | controlChange c _ _ => c.number = channel
  | noteOn c key velocity =>
    c.number = channel ∧ (lowest + 12 ≤ key.toNat ∧ key.toNat ≤ highest + 12) ∧
      8 ∣ velocity.toNat ∧ 8 ≤ velocity.toNat ∧ velocity.toNat ≤ 120
  | noteOff c key velocity =>
    c.number = channel ∧ (lowest + 12 ≤ key.toNat ∧ key.toNat ≤ highest + 12) ∧ velocity = 0
  | _ => True

/-- A track that can be played as it stands, given the number of its channel and the lowest and the
highest note. -/
structure Track.WellFormed (channel lowest highest : Nat) (t : Track) : Prop where
  ordered : t.Pairwise fun e f => e.time ≤ f.time
  ended : ∃ events time, t = events ++ [⟨time, .endOfTrack⟩] ∧
    ∀ e ∈ events, e.message ≠ .endOfTrack
  fits : ∀ e ∈ t, e.message.Fits channel lowest highest
  paired : Paired t.noteEvents
  /-- The voice starts at its time, and its tempos last at most fifteen seconds a quarter note. -/
  tempos : ∃ opening body, t = opening ++ body ∧ (∀ e ∈ opening, e.time < Part.bodyTime) ∧
    ∀ e ∈ body, Part.bodyTime ≤ e.time ∧
      ∀ tempo, e.message = .tempo tempo → 1 ≤ tempo.toNat ∧ tempo.toNat ≤ 15000000

/-! ### The parts of a track -/

/-- What a voice plays fits its channel and its range. -/
theorem Message.IsPlayed.fits {c : Setting} {m : Message} (played : m.IsPlayed c) :
    m.Fits c.channel.number c.range.lowest c.range.highest := by
  cases m with
  | noteOn channel key velocity =>
    obtain ⟨rfl, inRange, loudness⟩ := played
    exact ⟨rfl, inRange, loudness⟩
  | noteOff channel key velocity =>
    obtain ⟨rfl, inRange, silent⟩ := played
    exact ⟨rfl, inRange, silent⟩
  | tempo _ => trivial
  | _ => exact played.elim

/-- The body of a track is a voice, also if nothing is played in it. -/
theorem Part.isVoice_body {p : Policy} {c : Setting} {voice : String} {body : Track}
    (plays : (Part.body p c voice).result = .ok body) : body.IsVoice c bodyTime := by
  unfold Part.body at plays
  split at plays
  · cases plays
    refine ⟨⟨[], emptyEnd, rfl, by simp⟩, List.pairwise_singleton .., ?_, .nil⟩
    intro e mem
    rw [List.mem_singleton.1 mem]
    decide
  · exact isVoice_compileVoice plays

/-- The events before the voice: they are in order and end before it starts, and say nothing but a
preamble and the setup of the channel. -/
structure Track.IsOpening (channel : Channel) (t : Track) : Prop where
  ordered : t.Pairwise fun e f => e.time ≤ f.time
  before : ∀ e ∈ t, e.time < Part.bodyTime
  silent : t.noteEvents = []
  fits : ∀ e ∈ t, ∀ lowest highest, e.message.Fits channel.number lowest highest
  unended : ∀ e ∈ t, e.message ≠ .endOfTrack

/-- Everything in a preamble stands at the start of the track. -/
theorem Preamble.time_of_mem_events {preamble : Preamble} {e : Event}
    (mem : e ∈ preamble.events) : e.time = 0 := by
  obtain ⟨text, tempo, _ | data⟩ := preamble
  · simp [events] at mem
    rcases mem with rfl | rfl <;> rfl
  · simp [events] at mem
    rcases mem with rfl | rfl | rfl <;> rfl

theorem Preamble.isOpening_events (channel : Channel) (preamble : Preamble) :
    Track.IsOpening channel preamble.events := by
  obtain ⟨text, tempo, _ | data⟩ := preamble <;>
    exact ⟨by simp [events], by simp [events, Part.bodyTime, ticksPerWhole, ticksPerQuarter], rfl,
      by simp [events, Message.Fits], by simp [events]⟩

/-- The setup is silent, in order and before the voice; each of its events is one of three. -/
theorem Part.isOpening_setup (part : Part) : Track.IsOpening part.channel part.setup :=
  ⟨by simp [setup], by simp [setup, setupTime, bodyTime, ticksPerWhole, ticksPerQuarter], rfl,
    by simp [setup, Message.Fits], by simp [setup]⟩

theorem Track.IsOpening.append {channel : Channel} {t u : Track} (first : t.IsOpening channel)
    (second : u.IsOpening channel) (apart : ∀ e ∈ t, ∀ f ∈ u, e.time ≤ f.time) :
    Track.IsOpening channel (t ++ u) where
  ordered := List.pairwise_append.2 ⟨first.ordered, second.ordered, apart⟩
  before := List.forall_mem_append.2 ⟨first.before, second.before⟩
  silent := by
    unfold noteEvents
    rw [List.filter_append]
    exact List.append_eq_nil_iff.2 ⟨first.silent, second.silent⟩
  fits := List.forall_mem_append.2 ⟨first.fits, second.fits⟩
  unended := List.forall_mem_append.2 ⟨first.unended, second.unended⟩

/-- A preamble, if there is one, and the setup open a track. -/
theorem Part.isOpening_opening (part : Part) (preamble : Option Preamble) :
    (part.opening preamble).IsOpening part.channel := by
  refine Track.IsOpening.append ?_ part.isOpening_setup ?_
  · cases preamble with
    | none => exact ⟨.nil, by simp, rfl, by simp, by simp⟩
    | some preamble => exact preamble.isOpening_events part.channel
  · intro e mem f _
    cases preamble with
    | none => cases mem
    | some preamble =>
      rw [preamble.time_of_mem_events mem]
      exact Nat.zero_le _

/-- A voice starts after the opening of its track, so the track is in order as both are. -/
theorem Track.IsOpening.ordered_append {channel : Channel} {c : Setting} {opening body : Track}
    (opens : opening.IsOpening channel) (voice : body.IsVoice c Part.bodyTime) :
    (opening ++ body).Pairwise fun e f => e.time ≤ f.time := by
  refine List.pairwise_append.2 ⟨opens.ordered, voice.ordered, ?_⟩
  intro e mem f mem'
  exact Nat.le_trans (Nat.le_of_lt (opens.before e mem)) (voice.after f mem')

/-- An opening and a voice make a well-formed track. -/
theorem Track.IsOpening.wellFormed_append {c : Setting} {opening body : Track}
    (opens : opening.IsOpening c.channel) (voice : body.IsVoice c Part.bodyTime) :
    (opening ++ body).WellFormed c.channel.number c.range.lowest c.range.highest := by
  obtain ⟨events, time, parts, played⟩ := voice.ended
  have fits : ∀ e ∈ body, e.message.Fits c.channel.number c.range.lowest c.range.highest := by
    rw [parts]
    exact List.forall_mem_append.2
      ⟨fun e mem => (played e mem).fits, List.forall_mem_singleton.2 trivial⟩
  have tempos : ∀ e ∈ body, ∀ tempo, e.message = .tempo tempo →
      1 ≤ tempo.toNat ∧ tempo.toNat ≤ 15000000 := by
    rw [parts]
    refine List.forall_mem_append.2 ⟨?_, List.forall_mem_singleton.2 (by simp)⟩
    intro e mem tempo same
    have bounds := played e mem
    rw [same] at bounds
    exact bounds
  refine ⟨opens.ordered_append voice, ⟨opening ++ events, time, ?_, ?_⟩, ?_, ?_, ?_⟩
  · rw [parts, List.append_assoc]
  · exact List.forall_mem_append.2 ⟨opens.unended, fun e mem => (played e mem).ne_endOfTrack⟩
  · exact List.forall_mem_append.2 ⟨fun e mem => opens.fits e mem _ _, fits⟩
  · -- The opening plays no notes, so those of the track are those of the voice.
    have silent := opens.silent
    unfold noteEvents at silent ⊢
    rw [List.filter_append, silent, List.nil_append]
    exact voice.paired
  · exact ⟨opening, body, rfl, opens.before, fun e mem => ⟨voice.after e mem, tempos e mem⟩⟩

/-! ### Conversions -/

namespace Conversion

theorem number_of_channelOf {score : Nat} {channel : Channel}
    (hasChannel : channelOf score = .ok channel) : channel.number = score + 1 := by
  unfold channelOf at hasChannel
  split at hasChannel
  · next channel' number =>
    cases hasChannel
    exact Channel.ofNumber?_eq_some_iff.1 number
  · cases hasChannel

theorem bounds_of_rangeOf {o : Options} {range : NoteRange} (hasRange : rangeOf o = .ok range) :
    range.lowest = o.lowest.toNat ∧ range.highest = o.highest.toNat := by
  unfold rangeOf NoteRange.ofBounds at hasRange
  split_ifs at hasRange
  · cases hasRange
  · cases hasRange
  · cases hasRange
    exact ⟨rfl, rfl⟩

/-- **Converted tracks are well-formed**: there are three for each score, and those of score `i` are
well-formed on channel `i + 1`, within the note range of the conversion. -/
theorem wellFormed_of_toFile {p : Policy} {c : Conversion} {file : MidiFile}
    (converts : (c.toFile p).result = .ok file) :
    file.tracks.length = 3 * c.scores.length ∧
      ∀ (i : Nat) (track : Track), file.tracks[i]? = some track →
        track.WellFormed (i / 3 + 1) c.options.lowest.toNat c.options.highest.toNat := by
  obtain ⟨length, tracks⟩ := exists_voice_of_track converts
  refine ⟨length, ?_⟩
  intro i track at_i
  obtain ⟨part, range, voice, body, hasChannel, hasRange, plays, rfl⟩ := tracks i track at_i
  obtain ⟨lowest, highest⟩ := bounds_of_rangeOf hasRange
  have formed := (part.isOpening_opening (preambleOf c.options (i / 3) (i % 3))).wellFormed_append
    (c := ⟨part.channel, range⟩) (Part.isVoice_body plays)
  rwa [number_of_channelOf hasChannel, lowest, highest] at formed

/-- Two scores with a note that sounds on over a rest, one that sounds on to the end, a tempo, and a
preamble with a message that is skipped. -/
def duet : Conversion where
  scores := ["MML@c&rd&,,;", "MML@t90e,,;"]
  instruments := [0, 40]
  options := { preamble := some { sysEx := some ⟨#[0x41]⟩ } }

/-- The file of the two scores. -/
def duetFile : MidiFile where
  header := ⟨.parallel, 96⟩
  tracks :=
    let first : Part := ⟨⟨0⟩, 0, 64, 0⟩
    let second : Part := ⟨⟨1⟩, 40, 64, 0⟩
    [first.opening duet.options.preamble ++
        [⟨384, .noteOn ⟨0⟩ 60 64⟩, ⟨576, .noteOff ⟨0⟩ 60 0⟩, ⟨576, .noteOn ⟨0⟩ 62 64⟩,
          ⟨672, .noteOff ⟨0⟩ 62 0⟩, ⟨768, .endOfTrack⟩],
      first.opening none ++ [⟨385, .endOfTrack⟩],
      first.opening none ++ [⟨385, .endOfTrack⟩],
      second.opening none ++
        [⟨384, .tempo 666666⟩, ⟨384, .noteOn ⟨1⟩ 64 64⟩, ⟨480, .noteOff ⟨1⟩ 64 0⟩,
          ⟨576, .endOfTrack⟩],
      second.opening none ++ [⟨385, .endOfTrack⟩],
      second.opening none ++ [⟨385, .endOfTrack⟩]]

theorem wellFormed_of_toFile_duet :
    (duet.toFile .strict).result = .ok duetFile ∧
      duetFile.tracks.length = 3 * duet.scores.length ∧
        ∀ (i : Nat) (track : Track), duetFile.tracks[i]? = some track →
          track.WellFormed (i / 3 + 1) 0 96 :=
  have converts : (duet.toFile .strict).result = .ok duetFile := by decide +kernel
  ⟨converts, wellFormed_of_toFile converts⟩

end Conversion

end MusicMacro
