import MusicMacro.Proofs.Conversion.Faults
import MusicMacro.Proofs.Voice.Dropping

/-!
# Dropping and failing in conversions

A strict conversion fails on the first drop of the lenient one, at the voice in which it occurs, and
comes to the same where there is none (`result_strict`).  Every voice that becomes a track reports
it once, at its end, so the number of tracks before a drop says where it occurs: `k` tracks are
those of `k / 3` scores and of `k % 3` voices of the next one.
-/

namespace MusicMacro

namespace Conversion

/-- The error for a drop behind the tracks of `k` voices. -/
def dropError (k : Nat) (d : Defect) : Error :=
  .inVoice (.malformed d.message) (k / 3) (k % 3)

/-! ### Tracks -/

section

variable (o : Options) (part : Part) (range : NoteRange) (score voice : Nat) (text : String)

/-- A track is reported behind the reports of its voice. -/
theorem compileTrack_eq_bind (p : Policy) :
    compileTrack p o part range score voice text =
      (Part.body p ⟨part.channel, range⟩ text).mapError
          (fun fault => .inVoice fault.kind score voice) >>=
        fun body =>
          let track := part.opening (preambleOf o score voice) ++ body
          .say (.compiled part.channel track.length) >>= fun _ => pure track := by
  rw [compileTrack, Part.compile, Transcript.mapError_bind]
  rfl

theorem finished_body (p : Policy) (c : Setting) : (Part.body p c text).finished = 0 := by
  unfold Part.body
  split
  · rfl
  · exact finished_compileVoice ..

variable {o part range score voice text} in
theorem finished_compileTrack {p : Policy} {track : Track}
    (compiles : (compileTrack p o part range score voice text).result = .ok track) :
    (compileTrack p o part range score voice text).finished = 1 := by
  rw [compileTrack_eq_bind] at compiles ⊢
  rw [Transcript.result_bind, except_bind_eq_ok_iff] at compiles
  obtain ⟨body, plays, -⟩ := compiles
  rw [Transcript.finished_bind_of_ok plays]
  exact congrArg (· + 1) (finished_body text p ⟨part.channel, range⟩)

theorem untilDrop_body (c : Setting) (n : Nat) :
    (Part.body .lenient c text).untilDrop .ofDrop n =
      (Part.body .strict c text).result := by
  unfold Part.body
  split
  · rfl
  · exact untilDrop_compileVoice ..

/-- The first drop in a track is the failure of its voice. -/
theorem untilDrop_compileTrack (few : voice < 3) :
    (compileTrack .lenient o part range score voice text).untilDrop dropError
        (3 * score + voice) =
      (compileTrack .strict o part range score voice text).result := by
  have place (d : Defect) : dropError (3 * score + voice) d =
      .inVoice (VoiceFault.ofDrop (3 * score + voice) d).kind score voice := by
    have score' : (3 * score + voice) / 3 = score := by omega
    have voice' : (3 * score + voice) % 3 = voice := by omega
    rw [dropError, score', voice']
    rfl
  have fails := Transcript.untilDrop_mapError
    (g := fun fault : VoiceFault => Error.inVoice fault.kind score voice)
    (finished_body text .lenient ⟨part.channel, range⟩) place
  rw [compileTrack_eq_bind, compileTrack_eq_bind, Transcript.result_bind,
    Transcript.untilDrop_bind fun _ _ => rfl, fails, untilDrop_body]
  rfl

variable {o part range score voice text}

/-- A drop in a track is reported by its voice. -/
theorem mem_drops_compileTrack {p : Policy} {n : Nat} {x : Nat × Defect}
    (mem : x ∈ (compileTrack p o part range score voice text).drops n) :
    x.1 = n ∧ ∃ skipped, .dropping skipped x.2 ∈ (Part.body p ⟨part.channel, range⟩ text).out := by
  have quiet := finished_body text p ⟨part.channel, range⟩
  rw [compileTrack_eq_bind] at mem
  rcases Transcript.mem_drops_bind (fun _ _ => rfl) mem with mem | ⟨body, -, mem⟩
  · obtain ⟨skipped, mem'⟩ := exists_of_mem_dropsFrom mem
    exact ⟨eq_of_mem_dropsFrom quiet mem, skipped, Array.mem_toList_iff.1 mem'⟩
  · cases mem

end

/-! ### Scores -/

theorem ofText?_of_voicesOf {score : Nat} {text : String} {s : Score}
    (reads : voicesOf score text = .ok s) : Score.ofText? text = some s := by
  rw [voicesOf_eq] at reads
  split at reads
  · next s' form =>
    cases reads
    exact form
  · cases reads

section

variable (o : Options) (score : Nat) (text : String) (program : DataByte)

variable {o score text program} in
theorem finished_compileScore {p : Policy} {tracks : List Track}
    (compiles : (compileScore p o score text program).result = .ok tracks) :
    (compileScore p o score text program).finished = 3 := by
  unfold compileScore at compiles ⊢
  simp only [Transcript.result_bind, Transcript.result_ofExcept, except_bind_eq_ok_iff] at compiles
  obtain ⟨channel, hasChannel, range, hasRange, s, hasVoices, compiles⟩ := compiles
  simp only [hasChannel, hasRange, hasVoices, Transcript.ofExcept_ok_bind]
  refine Transcript.finished_mapM (m := 1) ?_ compiles
  exact fun _ _ => finished_compileTrack

theorem untilDrop_compileScore :
    (compileScore .lenient o score text program).untilDrop dropError (3 * score) =
      (compileScore .strict o score text program).result := by
  unfold compileScore
  simp only [Transcript.result_bind, Transcript.result_ofExcept,
    Transcript.untilDrop_ofExcept_bind]
  refine bind_congr fun channel => bind_congr fun range => bind_congr fun s => ?_
  refine Transcript.untilDrop_mapM (m := 1) ?_ s.voices 0 fun x mem => ?_
  · exact fun _ _ => finished_compileTrack
  · have few : x.2 < 3 := List.snd_lt_of_mem_zipIdx mem
    rw [Nat.one_mul]
    exact untilDrop_compileTrack _ _ _ _ _ _ few

variable {o score text program}

/-- A drop in a score is reported by one of its voices, and the number of tracks before it says by
which. -/
theorem mem_drops_compileScore {p : Policy} {x : Nat × Defect}
    (mem : x ∈ (compileScore p o score text program).drops (3 * score)) :
    x.1 / 3 = score ∧ ∃ channel range s voice skipped,
      channelOf score = .ok channel ∧ rangeOf o = .ok range ∧ Score.ofText? text = some s ∧
        s.voices[x.1 % 3]? = some voice ∧
        .dropping skipped x.2 ∈ (Part.body p ⟨channel, range⟩ voice).out := by
  unfold compileScore at mem
  obtain ⟨channel, hasChannel, mem⟩ := Transcript.mem_drops_ofExcept_bind mem
  obtain ⟨range, hasRange, mem⟩ := Transcript.mem_drops_ofExcept_bind mem
  obtain ⟨s, hasVoices, mem⟩ := Transcript.mem_drops_ofExcept_bind mem
  obtain ⟨⟨voice, i⟩, at_i, mem⟩ := Transcript.mem_drops_mapM (n := 3 * score) (m := 1) (k := 0)
    (fun _ _ => finished_compileTrack) mem
  obtain ⟨place, skipped, mem⟩ := mem_drops_compileTrack mem
  have few : i < 3 := List.snd_lt_of_mem_zipIdx at_i
  have score' : x.1 / 3 = score := by
    rw [place]
    omega
  have voice' : x.1 % 3 = i := by
    rw [place]
    omega
  refine ⟨score', channel, range, s, voice, skipped, hasChannel, hasRange, ?_, ?_, mem⟩
  · exact ofText?_of_voicesOf hasVoices
  · rw [voice']
    exact List.mem_zipIdx_iff_getElem?.1 at_i

end

/-! ### Conversions -/

theorem untilDrop_toFile (c : Conversion) :
    (c.toFile .lenient).untilDrop dropError 0 = (c.toFile .strict).result := by
  unfold toFile
  rw [Transcript.untilDrop_ofExcept_bind, Transcript.result_bind]
  refine bind_congr fun _ => ?_
  rw [Transcript.untilDrop_bind fun _ _ => rfl, Transcript.result_bind]
  have parts := Transcript.untilDrop_mapM (n := 0) (m := 3) (fun _ _ => finished_compileScore)
    (c.scores.zip c.instruments) 0 fun x _ => by
      rw [Nat.zero_add]
      exact untilDrop_compileScore c.options x.2 x.1.1 x.1.2
  exact congrArg₂ (· >>= ·) parts rfl

/-- A drop in a conversion is reported by a voice, and the number of tracks before it says by
which. -/
theorem mem_drops_toFile {p : Policy} {c : Conversion} {x : Nat × Defect}
    (mem : x ∈ (c.toFile p).drops 0) :
    ∃ text channel range s voice skipped, c.scores[x.1 / 3]? = some text ∧
      channelOf (x.1 / 3) = .ok channel ∧ rangeOf c.options = .ok range ∧
      Score.ofText? text = some s ∧ s.voices[x.1 % 3]? = some voice ∧
      .dropping skipped x.2 ∈ (Part.body p ⟨channel, range⟩ voice).out := by
  unfold toFile at mem
  obtain ⟨-, -, mem⟩ := Transcript.mem_drops_ofExcept_bind mem
  rcases Transcript.mem_drops_bind (fun _ _ => rfl) mem with mem | ⟨parts, -, mem⟩
  · obtain ⟨⟨⟨text, program⟩, score⟩, at_score, mem⟩ :=
      Transcript.mem_drops_mapM (n := 0) (m := 3) (k := 0) (fun _ _ => finished_compileScore) mem
    rw [Nat.zero_add] at mem
    obtain ⟨rfl, channel, range, s, voice, skipped, rest⟩ := mem_drops_compileScore mem
    have pair := List.mem_zipIdx_iff_getElem?.1 at_score
    obtain ⟨hasText, -⟩ := List.getElem?_zip_eq_some.1 pair
    obtain ⟨hasChannel, hasRange, hasVoices, at_voice, mem⟩ := rest
    exact ⟨text, channel, range, s, voice, skipped, hasText, hasChannel, hasRange, hasVoices,
      at_voice, mem⟩
  · cases mem

/-- **Failing is dropping, up to the first drop**: what the strict policy makes of a voice or of a
conversion is what the lenient one makes of it if there is no drop among its reports, and otherwise
the failure that the first of these is.  In a conversion that failure is placed at the voice by
which the drop was reported, as every drop can be from the number of tracks before it. -/
theorem result_strict :
    (∀ (c : Setting) (voice : String) (start : Nat),
      (compileVoice .strict c voice start).result.mapError VoiceFault.kind =
        match (compileVoice .lenient c voice start).drops 0 with
        | [] => (compileVoice .lenient c voice start).result.mapError VoiceFault.kind
        | (_, d) :: _ => .error (.malformed d.message)) ∧
    (∀ c : Conversion, (c.toFile .strict).result =
      match (c.toFile .lenient).drops 0 with
      | [] => (c.toFile .lenient).result
      | (k, d) :: _ => .error ⟨.malformed d.message, some ⟨k / 3, some (k % 3)⟩⟩) ∧
    (∀ (c : Conversion) (x : Nat × Defect), x ∈ (c.toFile .lenient).drops 0 →
      ∃ text channel range s voice skipped, c.scores[x.1 / 3]? = some text ∧
        channelOf (x.1 / 3) = .ok channel ∧ rangeOf c.options = .ok range ∧
        Score.ofText? text = some s ∧ s.voices[x.1 % 3]? = some voice ∧
        .dropping skipped x.2 ∈ (Part.body .lenient ⟨channel, range⟩ voice).out) := by
  refine ⟨fun c voice start => ?_, fun c => ?_, fun c x mem => mem_drops_toFile mem⟩
  · rw [← untilDrop_compileVoice c voice start 0, Transcript.untilDrop]
    cases (compileVoice .lenient c voice start).drops 0 <;> rfl
  · exact (untilDrop_toFile c).symm

/-- The second of three scores has a drop in its second voice, on which the strict policy fails, and
one more in its third voice. -/
theorem result_strict_trio :
    (trio.toFile .lenient).drops 0 = [(4, .lengthOutOfRange), (5, .tempoOutOfRange)] ∧
      (trio.toFile .strict).result =
        .error ⟨.malformed "note length out of range", some ⟨1, some 1⟩⟩ ∧
      ∃ channel range voice skipped, .dropping skipped .lengthOutOfRange ∈
        (Part.body .lenient ⟨channel, range⟩ voice).out := by
  have drops : (trio.toFile .lenient).drops 0 =
      [(4, .lengthOutOfRange), (5, .tempoOutOfRange)] := by
    decide +kernel
  have fails := result_strict.2.1 trio
  rw [drops] at fails
  have mem : (4, Defect.lengthOutOfRange) ∈ (trio.toFile .lenient).drops 0 := by
    rw [drops]
    exact List.mem_cons_self
  obtain ⟨-, channel, range, -, voice, skipped, -, -, -, -, -, reported⟩ :=
    result_strict.2.2 trio _ mem
  exact ⟨drops, fails, channel, range, voice, skipped, reported⟩

end Conversion

end MusicMacro
