import MusicMacro.Proofs.Conversion.Tracks
import MusicMacro.Proofs.Voice.Result

/-!
# The fault of a conversion

`Conversion.fault?` says what is wrong with a conversion, in the order in which it is looked at: the
counts, the note range, and then one score after the other, each with its form before its voices.
A conversion fails iff there is such a fault, and with the first one
(`Conversion.result_toFile_eq_error_iff`).
-/

namespace MusicMacro

theorem findSome?_congr_of_mem {α β : Type} {f g : α → Option β} {l : List α}
    (same : ∀ a ∈ l, f a = g a) : l.findSome? f = l.findSome? g := by
  rw [← List.head?_filterMap, ← List.head?_filterMap, List.filterMap_congr same]

namespace Conversion

/-! ### What can be wrong -/

/-- What is wrong with a voice of a score that is played in a setting; nothing if it is blank. -/
def voiceFault? (p : Policy) (c : Setting) (score voice : Nat) (text : String) : Option Error :=
  if text.toList.all isBlank then none
  else
    match (compileVoice p c text 384).result with
    | .error fault => some ⟨fault.kind, some ⟨score, some voice⟩⟩
    | .ok _ => none

/-- What is wrong with a score that is played in a note range: its form, or else the first of its
voices with a fault. -/
def scoreFault? (p : Policy) (range : NoteRange) (score : Nat) (text : String) : Option Error :=
  match Score.ofText? text with
  | none => some ⟨.grammar "expected `MML@<voice>,<voice>,<voice>;`", some ⟨score, none⟩⟩
  | some s =>
    s.voices.zipIdx.findSome? fun (text, voice) =>
      voiceFault? p ⟨⟨.ofNat 4 score⟩, range⟩ score voice text

/-- What is wrong with two notes that bound no range.  The note an octave above the lowest one
counts as at most 255. -/
def rangeFault (o : Options) : Error :=
  if o.highest.toNat < min (o.lowest.toNat + 11) 255 then
    ⟨.limit "note range must span at least an octave", none⟩
  else ⟨.limit "note range exceeds the midi key range", none⟩

/-- The first thing that is wrong with a conversion. -/
def fault? (p : Policy) (c : Conversion) : Option Error :=
  if c.scores = [] then some ⟨.grammar "no scores to convert", none⟩
  else if c.scores.length ≠ c.instruments.length then
    some ⟨.arity c.scores.length c.instruments.length, none⟩
  else if 16 < c.scores.length then some ⟨.limit "more scores than midi channels", none⟩
  else if bounds : c.options.lowest.toNat + 11 ≤ c.options.highest.toNat ∧
      c.options.highest.toNat + 12 ≤ 127 then
    c.scores.zipIdx.findSome? fun (text, score) =>
      scoreFault? p ⟨c.options.lowest.toNat, c.options.highest.toNat, bounds.1, by omega⟩ score text
  else some (rangeFault c.options)

/-! ### Channels and note ranges -/

theorem number_ofNat {score : Nat} (few : score < 16) :
    (⟨.ofNat 4 score⟩ : Channel).number = score + 1 := by
  rw [Channel.number, BitVec.toNat_ofNat, Nat.mod_eq_of_lt few]

theorem channelOf_eq_ok {score : Nat} (few : score < 16) :
    channelOf score = .ok ⟨.ofNat 4 score⟩ := by
  rw [channelOf, Channel.ofNumber?_eq_some_iff.2 (number_ofNat few)]

theorem rangeOf_eq_ok {o : Options} (octave : o.lowest.toNat + 11 ≤ o.highest.toNat)
    (keys : o.highest.toNat + 12 ≤ 127) :
    rangeOf o = .ok ⟨o.lowest.toNat, o.highest.toNat, octave, by omega⟩ := by
  rw [rangeOf, NoteRange.ofBounds, dif_neg (by omega), dif_neg (by omega)]
  rfl

theorem rangeOf_eq_error {o : Options}
    (bad : ¬ (o.lowest.toNat + 11 ≤ o.highest.toNat ∧ o.highest.toNat + 12 ≤ 127)) :
    rangeOf o = .error (rangeFault o) := by
  have byte := o.highest.toNat_lt
  rw [rangeOf, NoteRange.ofBounds, rangeFault]
  split_ifs with octave keys
  · rfl
  · rfl
  · -- Above a lowest note so high that there is no octave the highest one is too high as well.
    omega

/-! ### Voices and scores -/

theorem faultOf_compileTrack (p : Policy) (o : Options) (part : Part) (range : NoteRange)
    (score voice : Nat) (text : String) :
    faultOf (compileTrack p o part range score voice text).result =
      voiceFault? p ⟨part.channel, range⟩ score voice text := by
  have time : Part.bodyTime = 384 := rfl
  unfold compileTrack Transcript.mapError Part.compile Part.body voiceFault?
  simp only [Transcript.result_bind, time]
  split_ifs with blank
  · rfl
  · cases (compileVoice p ⟨part.channel, range⟩ text 384).result <;> rfl

theorem voicesOf_eq (score : Nat) (text : String) :
    voicesOf score text =
      match Score.ofText? text with
      | some s => .ok s
      | none => .error (.inScore Score.formError score) := by
  unfold voicesOf Score.ofText
  cases Score.ofText? text <;> rfl

theorem faultOf_compileScore {o : Options} {range : NoteRange} (hasRange : rangeOf o = .ok range)
    {score : Nat} (few : score < 16) (p : Policy) (text : String) (program : DataByte) :
    faultOf (compileScore p o score text program).result = scoreFault? p range score text := by
  unfold compileScore scoreFault?
  simp only [Transcript.result_bind, Transcript.result_ofExcept, channelOf_eq_ok few, hasRange,
    voicesOf_eq, except_ok_bind]
  cases Score.ofText? text with
  | none => rfl
  | some s =>
    simp only [except_ok_bind, Transcript.result_mapM, faultOf_mapM, faultOf_compileTrack]

/-- Without a note range every score fails for that, whatever it holds. -/
theorem faultOf_compileScore_of_error {o : Options} {why : Error}
    (noRange : rangeOf o = .error why) {score : Nat} (few : score < 16) (p : Policy)
    (text : String) (program : DataByte) :
    faultOf (compileScore p o score text program).result = some why := by
  unfold compileScore
  simp only [Transcript.result_bind, Transcript.result_ofExcept, channelOf_eq_ok few, noRange,
    except_ok_bind, except_error_bind, faultOf]

theorem eq_of_voiceFault? {p : Policy} {c : Setting} {score voice : Nat} {text : String}
    {why : Error} (wrong : voiceFault? p c score voice text = some why) :
    ∃ fault, (compileVoice p c text 384).result = .error fault ∧
      why = .inVoice fault.kind score voice := by
  unfold voiceFault? at wrong
  split_ifs at wrong
  split at wrong
  · next fault fails =>
    cases wrong
    exact ⟨fault, fails, rfl⟩
  · cases wrong

/-- Under the lenient policy a voice is wrong only if it is too long. -/
theorem voiceFault?_lenient (c : Setting) (score voice : Nat) (text : String) :
    voiceFault? .lenient c score voice text = none ∨
      voiceFault? .lenient c score voice text =
        some (.inVoice (.limit "voice is too long") score voice) := by
  cases wrong : voiceFault? .lenient c score voice text with
  | none => exact .inl rfl
  | some why =>
    obtain ⟨fault, fails, rfl⟩ := eq_of_voiceFault? wrong
    have long := tooLong_of_compileVoice fails
    exact .inr (by rw [long]; rfl)

/-- The form of a score is at fault, or one of its voices. -/
theorem eq_of_scoreFault? {p : Policy} {range : NoteRange} {score : Nat} {text : String}
    {why : Error} (wrong : scoreFault? p range score text = some why) :
    why = .inScore Score.formError score ∨
      ∃ kind voice, why = .inVoice kind score voice := by
  unfold scoreFault? at wrong
  split at wrong
  · cases wrong
    exact .inl rfl
  · obtain ⟨⟨text, voice⟩, -, wrong⟩ := List.exists_of_findSome?_eq_some wrong
    obtain ⟨fault, -, same⟩ := eq_of_voiceFault? wrong
    exact .inr ⟨fault.kind, voice, same⟩

/-! ### Conversions -/

theorem faultOf_checkCounts (c : Conversion) :
    faultOf c.checkCounts =
      if c.scores = [] then some ⟨.grammar "no scores to convert", none⟩
      else if c.scores.length ≠ c.instruments.length then
        some ⟨.arity c.scores.length c.instruments.length, none⟩
      else if 16 < c.scores.length then some ⟨.limit "more scores than midi channels", none⟩
      else none := by
  unfold checkCounts largestCount
  simp only [List.isEmpty_iff]
  split_ifs <;> rfl

/-- A conversion has the fault of its counts, or else that of its first score with one. -/
theorem faultOf_toFile_eq_or (p : Policy) (c : Conversion) :
    faultOf (c.toFile p).result =
      (faultOf c.checkCounts).or
        ((c.scores.zip c.instruments).zipIdx.findSome? fun ((text, program), score) =>
          faultOf (compileScore p c.options score text program).result) := by
  unfold toFile
  rw [Transcript.result_bind, Transcript.result_ofExcept]
  refine faultOf_bind fun _ _ => ?_
  rw [Transcript.result_bind, faultOf_bind (e := none) (fun parts _ => rfl), Option.or_none,
    Transcript.result_mapM, faultOf_mapM]

section

variable {c : Conversion} (paired : c.scores.length = c.instruments.length)
  (few : c.scores.length ≤ 16)

include few in
theorem lt_of_mem_parts {x : (String × DataByte) × Nat}
    (mem : x ∈ (c.scores.zip c.instruments).zipIdx) : x.2 < 16 := by
  have small := List.snd_lt_of_mem_zipIdx mem
  rw [List.length_zip] at small
  omega

include paired few in
/-- With a note range, the first fault among the scores is that of their forms and voices. -/
theorem findSome?_compileScore {range : NoteRange} (hasRange : rangeOf c.options = .ok range)
    (p : Policy) :
    ((c.scores.zip c.instruments).zipIdx.findSome? fun ((text, program), score) =>
        faultOf (compileScore p c.options score text program).result) =
      c.scores.zipIdx.findSome? fun (text, score) => scoreFault? p range score text := by
  have scores : ((c.scores.zip c.instruments).zipIdx.map fun x => (x.1.1, x.2)) =
      c.scores.zipIdx := by
    have fst := List.map_fst_zip (Nat.le_of_eq paired)
    conv_rhs => rw [← fst]
    rw [List.zipIdx_map]
    rfl
  rw [← scores, List.findSome?_map]
  refine findSome?_congr_of_mem ?_
  rintro ⟨⟨text, program⟩, score⟩ mem
  exact faultOf_compileScore hasRange (lt_of_mem_parts few mem) p text program

include paired few in
/-- Without a note range, the first fault among the scores is that there is none. -/
theorem findSome?_compileScore_of_error (nonempty : c.scores ≠ []) {why : Error}
    (noRange : rangeOf c.options = .error why) (p : Policy) :
    ((c.scores.zip c.instruments).zipIdx.findSome? fun ((text, program), score) =>
        faultOf (compileScore p c.options score text program).result) = some why := by
  have fails : ∀ x ∈ (c.scores.zip c.instruments).zipIdx,
      faultOf (compileScore p c.options x.2 x.1.1 x.1.2).result = some why :=
    fun x mem => faultOf_compileScore_of_error noRange (lt_of_mem_parts few mem) p x.1.1 x.1.2
  have length : (c.scores.zip c.instruments).zipIdx.length = c.scores.length := by
    rw [List.length_zipIdx, List.length_zip, ← paired, Nat.min_self]
  have positive := List.length_pos_iff.2 nonempty
  cases parts : (c.scores.zip c.instruments).zipIdx with
  | nil =>
    rw [parts] at length
    rw [← length] at positive
    cases positive
  | cons x rest =>
    rw [List.findSome?_cons]
    have first := fails x (parts ▸ List.mem_cons_self)
    simp only [first]

end

/-- The fault of a conversion is the first thing that is wrong with it. -/
theorem faultOf_toFile (p : Policy) (c : Conversion) :
    faultOf (c.toFile p).result = c.fault? p := by
  rw [faultOf_toFile_eq_or, faultOf_checkCounts]
  unfold fault?
  split_ifs with empty differ many bounds
  · rfl
  · rfl
  · rfl
  · exact findSome?_compileScore (not_not.1 differ) (Nat.not_lt.1 many)
      (rangeOf_eq_ok bounds.1 bounds.2) p
  · exact findSome?_compileScore_of_error (not_not.1 differ) (Nat.not_lt.1 many) empty
      (rangeOf_eq_error bounds) p

/-- A fault that is located at a score as a whole is that of its form. -/
theorem ne_noChannel_of_fault? {p : Policy} {c : Conversion} {score : Nat} :
    c.fault? p ≠ some (.inScore noChannel score) := by
  intro wrong
  unfold fault? at wrong
  split_ifs at wrong
  · cases wrong
  · cases wrong
  · cases wrong
  · obtain ⟨⟨text, score'⟩, -, wrong⟩ := List.exists_of_findSome?_eq_some wrong
    rcases eq_of_scoreFault? wrong with same | ⟨kind, voice, same⟩ <;> cases same
  · have nowhere : (rangeFault c.options).location = none := by
      unfold rangeFault
      split <;> rfl
    rw [Option.some.inj wrong] at nowhere
    cases nowhere

/-- **The first fault counts**: a conversion fails iff something is wrong with it, and as the first
thing that is.  Under the lenient policy nothing is wrong with a voice but that it is too long.  A
score that is reached always has a channel, so no conversion fails for the want of one. -/
theorem result_toFile_eq_error_iff (p : Policy) (c : Conversion) :
    (∀ why, (c.toFile p).result = .error why ↔ c.fault? p = some why) ∧
      (∀ setting score voice text, voiceFault? .lenient setting score voice text = none ∨
        voiceFault? .lenient setting score voice text =
          some ⟨.limit "voice is too long", some ⟨score, some voice⟩⟩) ∧
      (c.checkCounts = .ok () → ∀ score < c.scores.length, ∃ channel,
        channelOf score = .ok channel ∧ channel.number = score + 1) ∧
      ∀ score, (c.toFile p).result ≠ .error (.inScore noChannel score) := by
  have faults (why : Error) : (c.toFile p).result = .error why ↔ c.fault? p = some why := by
    rw [← faultOf_eq_some_iff, faultOf_toFile]
  refine ⟨faults, voiceFault?_lenient, ?_, ?_⟩
  · intro counts score reached
    obtain ⟨-, -, few⟩ := checkCounts_eq_ok counts
    have small : score < 16 := Nat.lt_of_lt_of_le reached few
    exact ⟨_, channelOf_eq_ok small, number_ofNat small⟩
  · intro score fails
    exact ne_noChannel_of_fault? ((faults _).1 fails)

/-- Three scores: one without faults, one with a length out of range in its second voice, and one
that does not have the form of a score. -/
def trio : Conversion where
  scores := ["MML@c,,;", "MML@d,l&e,t0;", "MML@f;"]
  instruments := [0, 40, 73]

/-- A late voice of a score counts before the form of the score behind it. -/
theorem result_toFile_eq_error_iff_trio :
    trio.checkCounts = .ok () ∧
      (trio.toFile .strict).result =
        .error ⟨.malformed "note length out of range", some ⟨1, some 1⟩⟩ ∧
      ∃ channel, channelOf 2 = .ok channel ∧ channel.number = 3 :=
  have counts : trio.checkCounts = .ok () := by decide
  have wrong : trio.fault? .strict =
      some ⟨.malformed "note length out of range", some ⟨1, some 1⟩⟩ := by
    decide +kernel
  ⟨counts, ((result_toFile_eq_error_iff .strict trio).1 _).2 wrong,
    (result_toFile_eq_error_iff .strict trio).2.2.1 counts 2 (by decide)⟩

end Conversion

end MusicMacro
