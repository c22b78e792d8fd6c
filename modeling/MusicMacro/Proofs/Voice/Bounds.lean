import MusicMacro.Proofs.Voice.NoteRange
import MusicMacro.Proofs.Voice.Playhead

/-!
# Bounds

The standard length, the volume and the octave of a voice stay within bounds, whatever numbers it is
given (`Playhead.Bounded.pass`).  A note therefore lasts at least two ticks and has a velocity
between 8 and 120 (`Playhead.Bounded.note?`).
-/

namespace MusicMacro

/-! ### Lengths and volumes -/

theorem ticksOfDivisor?_bounds {n ticks : Nat} (divides : ticksOfDivisor? n = some ticks) :
    2 ≤ ticks ∧ ticks ≤ ticksPerWhole := by
  unfold ticksOfDivisor? at divides
  split at divides
  · next valid =>
    cases divides
    -- The largest divisor is half of the ticks in a whole note.
    obtain ⟨positive, small⟩ := valid
    refine ⟨?_, Nat.div_le_self ..⟩
    rw [Nat.le_div_iff_mul_le positive]
    exact Nat.mul_le_mul_left 2 small
  · cases divides

theorem Token.ticks?_bounds {t : Token} {ticks : Nat} (gives : t.ticks? = some ticks) :
    2 ≤ ticks ∧ ticks ≤ ticksPerWhole := by
  obtain ⟨n, -, divides⟩ := Option.bind_eq_some_iff.1 gives
  exact ticksOfDivisor?_bounds divides

theorem withDot_bounds (ticks : Nat) (dotted : Bool) :
    ticks ≤ withDot ticks dotted ∧ withDot ticks dotted ≤ ticks + ticks / 2 := by
  unfold withDot
  split <;> omega

theorem Token.le_ticks {t : Token} {standard : Nat} (long : 2 ≤ standard) :
    2 ≤ t.ticks standard := by
  have dot := withDot_bounds (t.ticks?.getD standard) t.dotted
  have base : 2 ≤ t.ticks?.getD standard := by
    cases gives : t.ticks? with
    | none => exact long
    | some ticks => exact (Token.ticks?_bounds gives).1
  exact Nat.le_trans base dot.1

theorem Token.number?_le {t : Token} {n : Nat} (gives : t.number? = some n) :
    n ≤ largestNumber := by
  unfold number? at gives
  split at gives
  · cases gives
  · cases gives
    exact Nat.min_le_right ..

theorem VoiceState.clampVolume_bounds (n : Nat) :
    1 ≤ clampVolume n ∧ clampVolume n ≤ 15 := by
  unfold clampVolume
  omega

/-- The velocity of a volume within bounds loses nothing. -/
theorem VoiceState.toNat_velocity {volume : Nat} (small : volume ≤ 15) :
    (velocity volume).toNat = 8 * volume := by
  rw [velocity, BitVec.toNat_ofNat]
  exact Nat.mod_eq_of_lt (by omega)

/-! ### The playhead -/

/-- The bounds that length, volume and octave never leave. -/
structure Playhead.Bounded (h : Playhead) : Prop where
  two_le_length : 2 ≤ h.length
  length_le : h.length ≤ 576
  one_le_volume : 1 ≤ h.volume
  volume_le : h.volume ≤ 15
  octave_le : h.octave ≤ Token.largestNumber

namespace Playhead

theorem bounded_initial (start : Nat) : (initial start).Bounded := by
  constructor <;> simp [initial, ticksPerQuarter, Token.largestNumber]

theorem Bounded.pass {h : Playhead} (bounded : h.Bounded) (t : Token) : (h.pass t).Bounded := by
  obtain ⟨two, long, one, loud, high⟩ := bounded
  unfold Playhead.pass
  cases t.command with
  | note _ => exact ⟨two, long, one, loud, high⟩
  | key => exact ⟨two, long, one, loud, high⟩
  | rest => exact ⟨two, long, one, loud, high⟩
  | tempo => exact ⟨two, long, one, loud, high⟩
  | length =>
    cases gives : t.ticks? with
    | none => exact ⟨two, long, one, loud, high⟩
    | some ticks =>
      have divides := Token.ticks?_bounds gives
      have dot := withDot_bounds ticks t.dotted
      have whole : ticksPerWhole = 384 := rfl
      refine ⟨?_, ?_, one, loud, high⟩
      · show 2 ≤ withDot ticks t.dotted
        omega
      · show withDot ticks t.dotted ≤ 576
        omega
  | octave =>
    refine ⟨two, long, one, loud, ?_⟩
    show t.number?.getD 0 ≤ Token.largestNumber
    cases gives : t.number? with
    | none => exact Nat.zero_le _
    | some n => exact Token.number?_le gives
  | octaveDown => exact ⟨two, long, one, loud, Nat.le_trans (Nat.sub_le ..) high⟩
  | octaveUp => exact ⟨two, long, one, loud, Nat.le_trans (Nat.min_le_right ..) (by decide)⟩
  | volume =>
    obtain ⟨low, up⟩ := VoiceState.clampVolume_bounds (t.number?.getD 0)
    exact ⟨two, long, low, up, high⟩

/-- Time does not go back. -/
theorem time_le_pass (h : Playhead) (t : Token) : h.time ≤ (h.pass t).time := by
  unfold pass
  cases t.command with
  | note _ | rest | key => exact Nat.le_add_right ..
  | _ => exact Nat.le_refl _

/-- A note lasts at least two ticks, and the time behind it is its end. -/
theorem Bounded.note? {range : NoteRange} {h : Playhead} {t : Token} {x : Note}
    (bounded : h.Bounded) (plays : h.note? range t = some x) :
    2 ≤ x.ticks ∧ (h.pass t).time = x.stop := by
  obtain ⟨-, -, -, length | length, pass⟩ := note?_spec plays
  · exact ⟨length ▸ bounded.two_le_length, congrArg Playhead.time pass⟩
  · exact ⟨length ▸ Token.le_ticks bounded.two_le_length, congrArg Playhead.time pass⟩

end Playhead

end MusicMacro
