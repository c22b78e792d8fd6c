import MusicMacro.Proofs.Voice.Arrangement
import MusicMacro.Proofs.Voice.Lexing

/-!
# The melody of a voice

Tempos and volumes have no part in the melody.  A voice without them, and without its unknown text,
comes to the same events, except that no tempo is among them and every note is struck at the
velocity of the first volume (`melody_compileVoice`).

The melody is an arrangement of the voice: it leaves out the tempos and plays everything at one
volume.  A tempo or a volume does nothing to a voice in this arrangement, and any other token does
the same in it.
-/

namespace MusicMacro

/-! ### Melodies -/

/-- Whether a token has a part in the melody. -/
def Token.isMelodic (t : Token) : Bool :=
  match t.command with
  | .tempo | .volume => false
  | _ => true

/-- The tokens of a voice that have a part in the melody, one after the other. -/
def melodyOf (voice : String) : String :=
  writeTokens ((tokensOf voice).filter Token.isMelodic)

/-- A message in the melody, if it has a part in it.  All notes are struck alike. -/
def Message.melody? : Message → Option Message
  | tempo _ => none
  | noteOn channel key _ => some (noteOn channel key 64)
  | m => some m

/-- An event in the melody, if it has a part in it. -/
def Event.melody? (e : Event) : Option Event :=
  e.message.melody?.map fun m => { e with message := m }

/-- The melody of a track. -/
def Track.melody (t : Track) : Track :=
  t.filterMap Event.melody?

namespace Arrangement

/-- The arrangement that plays the melody. -/
def melodic : Arrangement :=
  { plain with
    volume _ := 8
    message? := Message.melody?
    noteOn _ _ _ := rfl
    noteOff _ _ := rfl
    endOfTrack := rfl
    releasedKey? m := by cases m <;> rfl }

theorem keeps_of_isMelodic {t : Token} (part : t.isMelodic) : melodic.Keeps t.command := by
  unfold Token.isMelodic at part
  cases command : t.command with
  | tempo | volume =>
    rw [command] at part
    cases part
  | _ => trivial

/-- Tempos and volumes do nothing to the melody. -/
theorem state_of_not_isMelodic (c : Setting) (s : VoiceState) {t : Token}
    (other : t.isMelodic = false) :
    ∃ s', s.apply c t = .ok s' ∧ melodic.state s' = melodic.state s := by
  unfold Token.isMelodic at other
  unfold VoiceState.apply
  cases command : t.command with
  | tempo => cases t.tempo? <;> exact ⟨_, rfl, rfl⟩
  | volume => exact ⟨_, rfl, rfl⟩
  | _ =>
    rw [command] at other
    cases other

/-- The melodic tokens play the melody of what all tokens play. -/
theorem applyAll_filter_isMelodic (c : Setting) (s : VoiceState) (ts : List Token) :
    (melodic.state s).applyAll c (ts.filter Token.isMelodic) =
      (s.applyAll c ts).map melodic.state := by
  induction ts generalizing s with
  | nil => rfl
  | cons t ts ih =>
    cases part : t.isMelodic with
    | true =>
      have same : (melodic.state s).apply c t = (s.apply c t).map melodic.state :=
        apply_state (keeps_of_isMelodic part) (.inl rfl)
      rw [List.filter_cons_of_pos part, VoiceState.applyAll_cons, VoiceState.applyAll_cons, same,
        except_map_bind, except_bind_map]
      simp only [ih]
    | false =>
      obtain ⟨s', plays, same⟩ := state_of_not_isMelodic c s part
      rw [List.filter_cons_of_neg (by simp [part]), VoiceState.applyAll_cons, plays, ← same, ih]
      rfl

end Arrangement

/-! ### Whole voices -/

/-- The melodic tokens are read back. -/
theorem ofVoice_melodyOf (voice : String) :
    Lexeme.ofVoice (melodyOf voice) = ((tokensOf voice).filter Token.isMelodic).map .token :=
  ofVoice_writeTokens fun _ mem => wellFormed_of_mem_tokensOf (List.mem_of_mem_filter mem)

/-- Under the lenient policy the melody of a voice is played like the voice. -/
theorem result_compileVoice_melodyOf (c : Setting) (voice : String) (start : Nat) :
    (compileVoice .lenient c (melodyOf voice) start).result =
      (compileVoice .lenient c voice start).result.map Track.melody := by
  have plays := Arrangement.applyAll_filter_isMelodic c { time := start } (tokensOf voice)
  have ends (s : VoiceState) :
      (Arrangement.melodic.state s).finish c = (s.finish c).map Track.melody :=
    Arrangement.finish_state (.inl rfl)
  have opening : Arrangement.melodic.state { time := start } = { time := start } := rfl
  rw [opening] at plays
  rw [result_compileVoice_lenient, result_compileVoice_lenient,
    tokensOf_of_ofVoice (ofVoice_melodyOf voice), plays, except_map_bind, except_bind_map]
  simp only [ends]

/-- **Tempos and volumes do not interfere with the melody.**  Where a voice compiles, the voice
without them compiles to the melody of its track, and under the lenient policy one of them fails iff
the other does. -/
theorem melody_compileVoice (p : Policy) (c : Setting) (voice : String) (start : Nat) :
    (∀ track, (compileVoice p c voice start).result = .ok track →
      (compileVoice p c (melodyOf voice) start).result = .ok track.melody) ∧
    ((∃ fault, (compileVoice .lenient c voice start).result = .error fault) ↔
      ∃ fault, (compileVoice .lenient c (melodyOf voice) start).result = .error fault) := by
  refine ⟨fun track compiles => ?_, ?_⟩
  · cases p with
    | lenient =>
      rw [result_compileVoice_melodyOf, compiles]
      rfl
    | strict =>
      -- Nothing in the voice has a defect, so no token of its melody has one.
      have sound := defects_of_compileVoice_strict compiles
      have sound' : ∀ l ∈ Lexeme.ofVoice (melodyOf voice), l.defects c.range.highest = [] := by
        intro l mem
        rw [ofVoice_melodyOf] at mem
        obtain ⟨t, kept, rfl⟩ := List.mem_map.1 mem
        exact sound _ (mem_tokensOf_iff.1 (List.mem_of_mem_filter kept))
      rw [result_compileVoice_of_sound sound, ← result_compileVoice_lenient] at compiles
      rw [result_compileVoice_of_sound sound', ← result_compileVoice_lenient,
        result_compileVoice_melodyOf, compiles]
      rfl
  · rw [result_compileVoice_melodyOf]
    cases (compileVoice .lenient c voice start).result <;> simp [Except.map]

/-- A length that ties a note over a tempo and a volume, each with a tie of its own. -/
theorem melody_compileVoice_tiedBack :
    melodyOf "c4 x t120.& v12& l8& c d" = "c4l8&cd" ∧
      (compileVoice .lenient ⟨⟨0⟩, .standard⟩ "c4 x t120.& v12& l8& c d" 0).result =
        .ok [⟨0, .noteOn ⟨0⟩ 60 64⟩, ⟨96, .tempo 500000⟩, ⟨144, .noteOff ⟨0⟩ 60 0⟩,
          ⟨144, .noteOn ⟨0⟩ 62 96⟩, ⟨192, .noteOff ⟨0⟩ 62 0⟩, ⟨240, .endOfTrack⟩] ∧
      (compileVoice .lenient ⟨⟨0⟩, .standard⟩ (melodyOf "c4 x t120.& v12& l8& c d") 0).result =
        .ok [⟨0, .noteOn ⟨0⟩ 60 64⟩, ⟨144, .noteOff ⟨0⟩ 60 0⟩, ⟨144, .noteOn ⟨0⟩ 62 64⟩,
          ⟨192, .noteOff ⟨0⟩ 62 0⟩, ⟨240, .endOfTrack⟩] :=
  have compiles : (compileVoice .lenient ⟨⟨0⟩, .standard⟩ "c4 x t120.& v12& l8& c d" 0).result =
      .ok [⟨0, .noteOn ⟨0⟩ 60 64⟩, ⟨96, .tempo 500000⟩, ⟨144, .noteOff ⟨0⟩ 60 0⟩,
        ⟨144, .noteOn ⟨0⟩ 62 96⟩, ⟨192, .noteOff ⟨0⟩ 62 0⟩, ⟨240, .endOfTrack⟩] := by
    decide +kernel
  ⟨by decide +kernel, compiles, (melody_compileVoice _ _ _ _).1 _ compiles⟩

end MusicMacro
