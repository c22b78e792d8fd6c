import MusicMacro.Conversion.Basic
import MusicMacro.Proofs.Voice.Run

/-!
# The tracks of a conversion

A file that was converted has three tracks for each score, in order, and track `i` is that of voice
`i % 3` of score `i / 3` (`Conversion.exists_voice_of_track`): its opening, which is the preamble if
it is the first one and the setup of the part, and the body of the voice.
-/

namespace MusicMacro

/-- Steps for all elements of a list that succeed give one result each, in order. -/
theorem Transcript.getElem?_of_mapM {ω ε α β : Type} {f : α → Transcript ω ε β} {l : List α}
    {bs : List β} (succeeds : (l.mapM f).result = .ok bs) :
    bs.length = l.length ∧
      ∀ (k : Nat) (b : β), bs[k]? = some b → ∃ a, l[k]? = some a ∧ (f a).result = .ok b := by
  induction l generalizing bs with
  | nil =>
    cases succeeds
    simp
  | cons a l ih =>
    rw [List.mapM_cons, Transcript.result_bind, except_bind_eq_ok_iff] at succeeds
    obtain ⟨b, first, succeeds⟩ := succeeds
    rw [Transcript.result_bind, except_bind_eq_ok_iff] at succeeds
    obtain ⟨bs', rest, same⟩ := succeeds
    cases same
    obtain ⟨length, each⟩ := ih rest
    refine ⟨by rw [List.length_cons, List.length_cons, length], ?_⟩
    intro k b' at_k
    cases k with
    | zero =>
      cases at_k
      exact ⟨a, rfl, first⟩
    | succ k => exact each k b' at_k

/-- Where all parts of a list are equally long, an index says the part and the place in it. -/
theorem getElem?_flatten_of_length {α : Type} {n : Nat} (positive : 0 < n) {ls : List (List α)}
    (uniform : ∀ l ∈ ls, l.length = n) (i : Nat) :
    ls.flatten[i]? = ls[i / n]?.bind fun l => l[i % n]? := by
  induction ls generalizing i with
  | nil => simp
  | cons l ls ih =>
    obtain ⟨length, uniform⟩ := List.forall_mem_cons.1 uniform
    rw [List.flatten_cons]
    rcases Nat.lt_or_ge i n with first | later
    · rw [List.getElem?_append_left (by omega), Nat.div_eq_of_lt first, Nat.mod_eq_of_lt first]
      rfl
    · obtain ⟨j, rfl⟩ : ∃ j, i = j + n := ⟨i - n, by omega⟩
      rw [List.getElem?_append_right (by omega), length, Nat.add_sub_cancel, ih uniform,
        Nat.add_div_right j positive, Nat.add_mod_right]
      rfl

/-- The events of a track before its voice. -/
def Part.opening (part : Part) (preamble : Option Preamble) : Track :=
  (preamble.map Preamble.events).getD [] ++ part.setup

namespace Conversion

/-- The track of a voice is made of its opening and the body of the voice. -/
theorem compileTrack_eq_ok {p : Policy} {o : Options} {part : Part} {range : NoteRange}
    {score voice : Nat} {text : String} {track : Track}
    (compiles : (compileTrack p o part range score voice text).result = .ok track) :
    ∃ body, (Part.body p ⟨part.channel, range⟩ text).result = .ok body ∧
      track = part.opening (preambleOf o score voice) ++ body := by
  unfold compileTrack Transcript.mapError at compiles
  rcases ends : (part.compile p ⟨part.channel, range⟩ text (preambleOf o score voice)).result
    with fault | track'
  · rw [ends] at compiles
    cases compiles
  · rw [ends] at compiles
    cases compiles
    unfold Part.compile at ends
    rw [Transcript.result_bind, except_bind_eq_ok_iff] at ends
    obtain ⟨body, plays, same⟩ := ends
    cases same
    exact ⟨body, plays, rfl⟩

/-- What a score with its three tracks consists of. -/
theorem compileScore_eq_ok {p : Policy} {o : Options} {score : Nat} {text : String}
    {program : DataByte} {tracks : List Track}
    (compiles : (compileScore p o score text program).result = .ok tracks) :
    ∃ channel range s, channelOf score = .ok channel ∧ rangeOf o = .ok range ∧
      voicesOf score text = .ok s ∧ tracks.length = 3 ∧
      ∀ (k : Nat) (track : Track), tracks[k]? = some track → ∃ voice, s.voices[k]? = some voice ∧
        (compileTrack p o ⟨channel, program, o.pan, o.effect⟩ range score k voice).result =
          .ok track := by
  unfold compileScore at compiles
  simp only [Transcript.result_bind, except_bind_eq_ok_iff] at compiles
  obtain ⟨channel, hasChannel, range, hasRange, s, hasVoices, all⟩ := compiles
  obtain ⟨length, each⟩ := Transcript.getElem?_of_mapM all
  rw [List.length_zipIdx] at length
  refine ⟨channel, range, s, hasChannel, hasRange, hasVoices, length, ?_⟩
  intro k track at_k
  obtain ⟨⟨voice, index⟩, at_k', plays⟩ := each k track at_k
  rw [List.getElem?_zipIdx, Option.map_eq_some_iff] at at_k'
  obtain ⟨voice', at_k', same⟩ := at_k'
  cases same
  rw [Nat.zero_add] at plays
  exact ⟨voice, at_k', plays⟩

/-- The counts of scores and instruments are those of the channels in use. -/
theorem checkCounts_eq_ok {c : Conversion} (checks : c.checkCounts = .ok ()) :
    c.scores ≠ [] ∧ c.scores.length = c.instruments.length ∧ c.scores.length ≤ largestCount := by
  unfold checkCounts at checks
  split_ifs at checks with empty differ many
  exact ⟨by simpa using empty, not_not.1 differ, Nat.not_lt.1 many⟩

/-- What a converted file consists of: its header, and the tracks of one score after the other. -/
theorem toFile_eq_ok {p : Policy} {c : Conversion} {file : MidiFile}
    (converts : (c.toFile p).result = .ok file) :
    c.checkCounts = .ok () ∧
      file.header = ⟨.ofTrackCount file.tracks.length, c.options.division⟩ ∧
      ∃ parts : List (List Track), file.tracks = parts.flatten ∧
        parts.length = c.scores.length ∧
        ∀ (k : Nat) (tracks : List Track), parts[k]? = some tracks →
          ∃ text program, c.scores[k]? = some text ∧ c.instruments[k]? = some program ∧
            (compileScore p c.options k text program).result = .ok tracks := by
  unfold toFile at converts
  simp only [Transcript.result_bind, except_bind_eq_ok_iff] at converts
  obtain ⟨_, counts, parts, all, -, -, same⟩ := converts
  cases same
  obtain ⟨-, equal, -⟩ := checkCounts_eq_ok counts
  obtain ⟨length, each⟩ := Transcript.getElem?_of_mapM all
  rw [List.length_zipIdx, List.length_zip, ← equal, Nat.min_self] at length
  refine ⟨counts, rfl, parts, rfl, length, ?_⟩
  intro k tracks at_k
  obtain ⟨⟨⟨text, program⟩, score⟩, at_k', compiles⟩ := each k tracks at_k
  rw [List.getElem?_zipIdx, Option.map_eq_some_iff] at at_k'
  obtain ⟨⟨text', program'⟩, at_k', same⟩ := at_k'
  cases same
  obtain ⟨hasText, hasProgram⟩ := List.getElem?_zip_eq_some.1 at_k'
  rw [Nat.zero_add] at compiles
  exact ⟨text, program, hasText, hasProgram, compiles⟩

/-- A converted file has three tracks for each score, and track `i` is that of voice `i % 3` of
score `i / 3`: this is everything that goes into it. -/
theorem exists_score_of_track {p : Policy} {c : Conversion} {file : MidiFile}
    (converts : (c.toFile p).result = .ok file) :
    file.tracks.length = 3 * c.scores.length ∧
      ∀ (i : Nat) (track : Track), file.tracks[i]? = some track →
        ∃ text program channel range s voice body,
          c.scores[i / 3]? = some text ∧ c.instruments[i / 3]? = some program ∧
          channelOf (i / 3) = .ok channel ∧ rangeOf c.options = .ok range ∧
          voicesOf (i / 3) text = .ok s ∧ s.voices[i % 3]? = some voice ∧
          (Part.body p ⟨channel, range⟩ voice).result = .ok body ∧
          track = (⟨channel, program, c.options.pan, c.options.effect⟩ : Part).opening
            (preambleOf c.options (i / 3) (i % 3)) ++ body := by
  obtain ⟨-, -, parts, flat, length, each⟩ := toFile_eq_ok converts
  -- Every score has three tracks, so the number of a track says its score and its voice.
  have uniform : ∀ tracks ∈ parts, tracks.length = 3 := by
    intro tracks mem
    obtain ⟨k, at_k⟩ := List.getElem?_of_mem mem
    obtain ⟨text, program, -, -, compiles⟩ := each k tracks at_k
    obtain ⟨-, -, -, -, -, -, three, -⟩ := compileScore_eq_ok compiles
    exact three
  constructor
  · rw [flat, List.length_flatten, List.map_congr_left uniform, List.map_const',
      List.sum_replicate_nat, length, Nat.mul_comm]
  · intro i track at_i
    rw [flat, getElem?_flatten_of_length (by decide) uniform, Option.bind_eq_some_iff] at at_i
    obtain ⟨tracks, at_score, at_voice⟩ := at_i
    obtain ⟨text, program, hasText, hasProgram, compiles⟩ := each _ tracks at_score
    obtain ⟨channel, range, s, hasChannel, hasRange, hasVoices, -, voices⟩ :=
      compileScore_eq_ok compiles
    obtain ⟨voice, hasVoice, plays⟩ := voices _ track at_voice
    obtain ⟨body, plays, same⟩ := compileTrack_eq_ok plays
    exact ⟨text, program, channel, range, s, voice, body, hasText, hasProgram, hasChannel,
      hasRange, hasVoices, hasVoice, plays, same⟩

/-- **Track `i` of a converted file** is that of voice `i % 3` of score `i / 3`. -/
theorem exists_voice_of_track {p : Policy} {c : Conversion} {file : MidiFile}
    (converts : (c.toFile p).result = .ok file) :
    file.tracks.length = 3 * c.scores.length ∧
      ∀ (i : Nat) (track : Track), file.tracks[i]? = some track →
        ∃ (part : Part) (range : NoteRange) (voice : String) (body : Track),
          channelOf (i / 3) = .ok part.channel ∧ rangeOf c.options = .ok range ∧
          (Part.body p ⟨part.channel, range⟩ voice).result = .ok body ∧
          track = part.opening (preambleOf c.options (i / 3) (i % 3)) ++ body := by
  obtain ⟨length, scores⟩ := exists_score_of_track converts
  refine ⟨length, ?_⟩
  intro i track at_i
  obtain ⟨text, program, channel, range, s, voice, body, -, -, hasChannel, hasRange, -, -, plays,
    same⟩ := scores i track at_i
  exact ⟨⟨channel, program, c.options.pan, c.options.effect⟩, range, voice, body, hasChannel,
    hasRange, plays, same⟩

end Conversion

end MusicMacro
