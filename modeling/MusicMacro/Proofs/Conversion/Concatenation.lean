import MusicMacro.Proofs.Conversion.Faults
import MusicMacro.Proofs.Conversion.WellFormed
import MusicMacro.Proofs.Voice.Renaming

/-!
# Scores one by one

Scores that are converted together are converted one by one: the tracks of a score are those that it
has alone, moved to its channel, and nothing else of the other scores matters than that they can be
converted (`toFile_eq_concatenation`).  Only the first score has the preamble.

The tracks of a score depend on its place through the channel of its part alone
(`toOption_compileScore`); where it fails, the error also names its place.
-/

namespace MusicMacro

/-! ### Parts -/

/-- A part on the image of its channel. -/
def Part.mapChannel (f : Channel → Channel) (part : Part) : Part :=
  { part with channel := f part.channel }

theorem Part.opening_mapChannel (f : Channel → Channel) (part : Part)
    (preamble : Option Preamble) :
    (part.mapChannel f).opening preamble = Track.mapChannel f (part.opening preamble) := by
  cases preamble with
  | none => rfl
  | some preamble =>
    obtain ⟨text, tempo, data | data⟩ := preamble <;> rfl

theorem Part.result_body_mapChannel (f : Channel → Channel) (p : Policy) (c : Setting)
    (text : String) :
    (Part.body p (c.mapChannel f) text).result =
      (Part.body p c text).result.map (Track.mapChannel f) := by
  unfold Part.body
  split
  · rfl
  · exact result_compileVoice_mapChannel ..

/-- The options of a score alone: only the first one has the preamble. -/
def Options.forScore (o : Options) (score : Nat) : Options :=
  { o with preamble := if score = 0 then o.preamble else none }

namespace Conversion

theorem preambleOf_forScore (o : Options) (score voice : Nat) :
    preambleOf (o.forScore score) 0 voice = preambleOf o score voice := by
  unfold preambleOf Options.forScore
  split_ifs <;> simp_all

/-! ### Tracks and scores -/

/-- A track that can be compiled is its opening and the body of its voice. -/
theorem toOption_compileTrack (p : Policy) (o : Options) (part : Part) (range : NoteRange)
    (score voice : Nat) (text : String) :
    (compileTrack p o part range score voice text).result.toOption =
      (Part.body p ⟨part.channel, range⟩ text).result.toOption.map
        (part.opening (preambleOf o score voice) ++ ·) := by
  unfold compileTrack Transcript.mapError Part.compile
  simp only [Transcript.result_bind]
  cases (Part.body p ⟨part.channel, range⟩ text).result <;> rfl

theorem toOption_compileTrack_mapChannel (f : Channel → Channel) (p : Policy) (o : Options)
    (part : Part) (range : NoteRange) (score voice : Nat) (text : String) :
    (compileTrack p o (part.mapChannel f) range score voice text).result.toOption =
      (compileTrack p (o.forScore score) part range 0 voice text).result.toOption.map
        (Track.mapChannel f) := by
  have body := Part.result_body_mapChannel f p ⟨part.channel, range⟩ text
  have setting : (⟨(part.mapChannel f).channel, range⟩ : Setting) =
      Setting.mapChannel f ⟨part.channel, range⟩ := rfl
  rw [toOption_compileTrack, toOption_compileTrack, preambleOf_forScore, setting, body,
    except_toOption_map, Part.opening_mapChannel, Option.map_map, Option.map_map]
  have append (track : Track) :
      Track.mapChannel f (part.opening (preambleOf o score voice)) ++ Track.mapChannel f track =
        Track.mapChannel f (part.opening (preambleOf o score voice) ++ track) :=
    List.map_append.symm
  exact congrArg (Option.map · _) (funext append)

/-- The channel of a score in place of the first one. -/
def toChannel (score : Nat) (channel : Channel) : Channel :=
  if channel.number = 1 then ⟨.ofNat 4 score⟩ else channel

/-- The tracks of a score are those that it has alone, on its own channel. -/
theorem toOption_compileScore {score : Nat} (few : score < 16) (p : Policy) (o : Options)
    (text : String) (program : DataByte) :
    (compileScore p o score text program).result.toOption =
      (compileScore p (o.forScore score) 0 text program).result.toOption.map
        (List.map (Track.mapChannel (toChannel score))) := by
  have first : channelOf 0 = .ok ⟨.ofNat 4 0⟩ := channelOf_eq_ok (by decide)
  have range' : rangeOf (o.forScore score) = rangeOf o := rfl
  unfold compileScore
  simp only [Transcript.result_bind, Transcript.result_ofExcept, channelOf_eq_ok few, first, range',
    voicesOf_eq, except_ok_bind]
  cases rangeOf o with
  | error why => rfl
  | ok range =>
    cases Score.ofText? text with
    | none => rfl
    | some s =>
      simp only [except_ok_bind, Transcript.result_mapM]
      let part : Part := ⟨⟨.ofNat 4 0⟩, program, o.pan, o.effect⟩
      exact except_toOption_mapM fun (text, voice) _ =>
        toOption_compileTrack_mapChannel (toChannel score) p o part range score voice text

theorem compileScore_eq_ok_iff {score : Nat} (few : score < 16) {p : Policy} {o : Options}
    {text : String} {program : DataByte} {tracks : List Track} :
    (compileScore p o score text program).result = .ok tracks ↔
      ∃ alone, (compileScore p (o.forScore score) 0 text program).result = .ok alone ∧
        alone.map (Track.mapChannel (toChannel score)) = tracks := by
  rw [← except_toOption_eq_some_iff, toOption_compileScore few, Option.map_eq_some_iff]
  simp only [except_toOption_eq_some_iff]

/-- The preamble does not matter for whether a score can be converted. -/
theorem faultOf_compileScore_forScore (p : Policy) (o : Options) (score : Nat) (text : String)
    (program : DataByte) :
    faultOf (compileScore p (o.forScore score) 0 text program).result =
      faultOf (compileScore p o 0 text program).result := by
  have range' : rangeOf (o.forScore score) = rangeOf o := rfl
  have few : 0 < 16 := by decide
  cases hasRange : rangeOf o with
  | error why =>
    rw [faultOf_compileScore_of_error hasRange few,
      faultOf_compileScore_of_error (range'.trans hasRange) few]
  | ok range =>
    rw [faultOf_compileScore hasRange few, faultOf_compileScore (range'.trans hasRange) few]

/-- The place of a score does not matter for whether it can be converted. -/
theorem faultOf_compileScore_eq_none_iff {score : Nat} (few : score < 16) (p : Policy)
    (o : Options) (text : String) (program : DataByte) :
    faultOf (compileScore p o score text program).result = none ↔
      faultOf (compileScore p o 0 text program).result = none := by
  rw [← faultOf_compileScore_forScore p o score, faultOf_eq_none_iff, faultOf_eq_none_iff]
  simp only [compileScore_eq_ok_iff few]
  constructor
  · rintro ⟨-, alone, compiles, -⟩
    exact ⟨alone, compiles⟩
  · rintro ⟨alone, compiles⟩
    exact ⟨_, alone, compiles, rfl⟩

/-! ### Files -/

section

variable {p : Policy} {o : Options} {text : String} {program : DataByte}

/-- The conversion of one score has the result of the score. -/
theorem result_toFile_single :
    (toFile p { single text program with options := o }).result =
      (compileScore p o 0 text program).result.map fun tracks =>
        ⟨⟨.ofTrackCount tracks.length, o.division⟩, tracks⟩ := by
  have counts : checkCounts { single text program with options := o } = .ok () := rfl
  unfold toFile
  rw [Transcript.result_bind, Transcript.result_ofExcept, counts, except_ok_bind,
    Transcript.result_bind, Transcript.result_mapM]
  simp only [single, List.zip_cons_cons, List.zip_nil_left, List.zipIdx_singleton,
    List.mapM_cons, List.mapM_nil]
  cases (compileScore p o 0 text program).result with
  | error why => rfl
  | ok tracks =>
    have flat : [tracks].flatten = tracks := List.flatten_singleton
    exact congrArg (fun tracks : List Track =>
      Except.ok (⟨⟨.ofTrackCount tracks.length, o.division⟩, tracks⟩ : MidiFile)) flat

theorem faultOf_toFile_single :
    faultOf (toFile p { single text program with options := o }).result =
      faultOf (compileScore p o 0 text program).result := by
  rw [result_toFile_single]
  cases (compileScore p o 0 text program).result <;> rfl

end

theorem checkCounts_of_counts {c : Conversion} (positive : 1 ≤ c.scores.length)
    (few : c.scores.length ≤ 16) (paired : c.instruments.length = c.scores.length) :
    c.checkCounts = .ok () := by
  have nonempty : c.scores ≠ [] := List.length_pos_iff.1 positive
  unfold checkCounts largestCount
  simp only [List.isEmpty_iff]
  rw [if_neg nonempty, if_neg (not_not.2 paired.symm), if_neg (Nat.not_lt.2 few)]

/-- All scores can be converted where they stand iff each of them can be in the first place. -/
theorem findSome?_compileScore_eq_none_iff {c : Conversion} (few : c.scores.length ≤ 16)
    (p : Policy) :
    ((c.scores.zip c.instruments).zipIdx.findSome? fun ((text, program), score) =>
        faultOf (compileScore p c.options score text program).result) = none ↔
      ∀ x ∈ c.scores.zip c.instruments,
        faultOf (compileScore p c.options 0 x.1 x.2).result = none := by
  rw [List.findSome?_eq_none_iff]
  constructor
  · rintro all ⟨text, program⟩ mem
    obtain ⟨i, at_i⟩ := List.getElem?_of_mem mem
    have mem' : ((text, program), i) ∈ (c.scores.zip c.instruments).zipIdx :=
      List.mem_zipIdx_iff_getElem?.2 at_i
    have small : i < 16 := lt_of_mem_parts few mem'
    have sound := all ((text, program), i) mem'
    exact (faultOf_compileScore_eq_none_iff small p c.options text program).1 sound
  · rintro all ⟨⟨text, program⟩, i⟩ mem
    have small : i < 16 := lt_of_mem_parts few mem
    have alone := all _ (List.fst_mem_of_mem_zipIdx mem)
    exact (faultOf_compileScore_eq_none_iff small p c.options text program).2 alone

/-- **Scores are converted one by one**: scores can be converted together iff each of them can be
alone, and their tracks are then those that they have alone, each on its own channel instead of
channel 1, where only the first score has the preamble. -/
theorem toFile_eq_concatenation (p : Policy) (c : Conversion) (positive : 1 ≤ c.scores.length)
    (few : c.scores.length ≤ 16) (paired : c.instruments.length = c.scores.length) :
    ((∃ file, (c.toFile p).result = .ok file) ↔
      ∀ x ∈ c.scores.zip c.instruments, ∃ file,
        (toFile p { single x.1 x.2 with options := c.options }).result = .ok file) ∧
    ∀ file, (c.toFile p).result = .ok file →
      file.header = ⟨.parallel, c.options.division⟩ ∧
      file.tracks.length = 3 * c.scores.length ∧
      ∃ parts : List (List Track), file.tracks = parts.flatten ∧
        parts.length = c.scores.length ∧
        ∀ (i : Nat) (part : List Track), parts[i]? = some part →
          ∃ text program channel alone, c.scores[i]? = some text ∧
            c.instruments[i]? = some program ∧ channel.number = i + 1 ∧
            (toFile p { single text program with options := c.options.forScore i }).result =
              .ok alone ∧
            alone.tracks.length = 3 ∧
            part = alone.tracks.map (Track.mapChannel fun channel' =>
              if channel'.number = 1 then channel else channel') := by
  have counts : c.checkCounts = .ok () := checkCounts_of_counts positive few paired
  refine ⟨?_, fun file converts => ?_⟩
  · rw [← faultOf_eq_none_iff, faultOf_toFile_eq_or, counts]
    simp only [← faultOf_eq_none_iff, faultOf_toFile_single]
    exact findSome?_compileScore_eq_none_iff few p
  · obtain ⟨-, header, parts, flat, length, each⟩ := toFile_eq_ok converts
    obtain ⟨count, -⟩ := exists_voice_of_track converts
    have several : file.tracks.length ≠ 1 := by omega
    refine ⟨?_, count, parts, flat, length, fun i part at_i => ?_⟩
    · rw [header, Format.ofTrackCount, if_neg several]
    · obtain ⟨text, program, hasText, hasProgram, compiles⟩ := each i part at_i
      obtain ⟨reached, -⟩ := List.getElem?_eq_some_iff.1 at_i
      have few' : i < 16 := by omega
      obtain ⟨alone, compiles', same⟩ := (compileScore_eq_ok_iff few').1 compiles
      obtain ⟨-, -, -, -, -, -, three, -⟩ := compileScore_eq_ok compiles'
      refine ⟨text, program, ⟨.ofNat 4 i⟩,
        ⟨⟨.ofTrackCount alone.length, c.options.division⟩, alone⟩, hasText, hasProgram,
        number_ofNat few', ?_, three, same.symm⟩
      rw [result_toFile_single, compiles']
      rfl

/-- Two scores, of which the first has the preamble, are converted one by one. -/
theorem toFile_eq_concatenation_duet :
    1 ≤ duet.scores.length ∧ duet.scores.length ≤ 16 ∧
      duet.instruments.length = duet.scores.length ∧
      (duet.toFile .strict).result = .ok duetFile ∧
      duetFile.header = ⟨.parallel, 96⟩ ∧ duetFile.tracks.length = 6 := by
  have positive : 1 ≤ duet.scores.length := by decide
  have few : duet.scores.length ≤ 16 := by decide
  have paired : duet.instruments.length = duet.scores.length := rfl
  have converts : (duet.toFile .strict).result = .ok duetFile := by decide +kernel
  obtain ⟨-, parts⟩ := toFile_eq_concatenation .strict duet positive few paired
  obtain ⟨header, count, -⟩ := parts duetFile converts
  exact ⟨positive, few, paired, converts, header, count⟩

end Conversion

end MusicMacro
