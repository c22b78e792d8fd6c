import MusicMacro.Proofs.Voice.Playhead

/-!
# Ties

`noteEvents_compileVoice`: the events that start and end notes in a compiled voice are those that
`Note.events` reads off the notes as they are written.  There a note is started unless the note
before it is joined to it and has its key, and ended unless it is joined to such a note after it.

A voice does not know when it plays a note whether a length behind it will join it to the next.  The
invariant `VoiceState.Sounds` therefore takes the last note out of the events heard so far: either
it is held, or its end is the last of them and may still be taken back.
-/

namespace MusicMacro

/-- Whether a message starts or ends a note. -/
def Message.isNote : Message → Bool
  | noteOn .. | noteOff .. => true
  | _ => false

/-- Whether an event starts or ends a note. -/
def Event.isNote (e : Event) : Bool :=
  e.message.isNote

/-- The events of a track that start or end notes. -/
def Track.noteEvents (t : Track) : Track :=
  t.filter Event.isNote

namespace Note

/-! ### The events of notes -/

/-- Whether a note sounds on as the note after it. -/
def carriesInto (x y : Note) : Bool :=
  x.joined && x.key = y.key

/-- The start of a note, unless the note before it sounds on. -/
def attack (channel : Channel) (before : Option Note) (x : Note) : List Event :=
  if before.any (carriesInto · x) then [] else [⟨x.start, .noteOn channel x.key x.velocity⟩]

/-- When a note ends: where it is joined, at the start of the next note, or when the voice ends if
there is none. -/
def releaseTime (final : Nat) (x : Note) (next : Option Note) : Nat :=
  if x.joined then (next.map start).getD final else x.stop

/-- The end of a note, unless it sounds on as the next. -/
def release (channel : Channel) (final : Nat) (x : Note) (next : Option Note) : List Event :=
  if next.any x.carriesInto then [] else [⟨x.releaseTime final next, .noteOff channel x.key 0⟩]

/-- The events of the notes of a voice that ends at the time `final`, where another note may stand
before them. -/
def events (channel : Channel) (final : Nat) : (before : Option Note) → List Note → List Event
  | _, [] => []
  | before, x :: rest =>
    x.attack channel before ++ x.release channel final rest.head? ++
      events channel final (some x) rest

/-- The events from the end of a note on. -/
def eventsFrom (channel : Channel) (final : Nat) (last : Option Note) (rest : List Note) :
    List Event :=
  (last.map fun x => x.release channel final rest.head?).getD [] ++ events channel final last rest

@[simp]
theorem joinedBy_false (x : Note) : x.joinedBy false = x :=
  congrArg (fun joined => { x with joined }) (Bool.or_false _)

@[simp]
theorem joinedBy_joinedBy (x : Note) (a b : Bool) :
    (x.joinedBy a).joinedBy b = x.joinedBy (a || b) :=
  congrArg (fun joined => { x with joined }) (Bool.or_assoc ..)

/-- Whether a note is joined to what follows does not matter for what comes before it. -/
theorem eventsFrom_cons (channel : Channel) (final : Nat) (last : Option Note) (y : Note)
    (tie : Bool) (rest : List Note) :
    eventsFrom channel final last (y.joinedBy tie :: rest) =
      (last.map fun x => x.release channel final (some y)).getD [] ++ y.attack channel last ++
        eventsFrom channel final (some (y.joinedBy tie)) rest := by
  have parts : eventsFrom channel final last (y.joinedBy tie :: rest) =
      (last.map fun x => x.release channel final (some y)).getD [] ++
        (y.attack channel last ++ (y.joinedBy tie).release channel final rest.head? ++
          events channel final (some (y.joinedBy tie)) rest) := rfl
  rw [parts, eventsFrom, Option.map_some, Option.getD_some, List.append_assoc, List.append_assoc]

end Note

namespace VoiceState

/-! ### What was heard -/

/-- The starts and ends of notes so far, in order. -/
def heard (s : VoiceState) : List Event :=
  (s.events.filter Event.isNote).reverse

theorem heard_emit (s : VoiceState) (m : Message) :
    (s.emit m).heard = s.heard ++ (if m.isNote then [⟨s.time, m⟩] else []) := by
  unfold heard emit
  cases note : m.isNote <;> simp [Event.isNote, note]

theorem heard_eq_concat_iff {s : VoiceState} {settled : List Event} {e : Event} :
    s.heard = settled ++ [e] ↔
      (s.events.filter Event.isNote) = e :: settled.reverse := by
  unfold heard
  rw [List.reverse_eq_iff, List.reverse_concat]

/-- Only notes are released. -/
theorem isNote_of_releasedKey? {m : Message} (releases : m.releasedKey?.isSome) : m.isNote := by
  cases m with
  | noteOff _ _ _ => rfl
  | _ => cases releases

/-- Where the last event of a note is an end, it is the end that a tie finds and takes back. -/
theorem takeBack_of_filter {l rest : List Event} {time : Nat} {channel : Channel}
    {key velocity : DataByte}
    (last : (l.filter Event.isNote) = ⟨time, .noteOff channel key velocity⟩ :: rest) :
    (l.findSome? fun e => e.message.releasedKey?) = some key ∧
      (l.eraseP fun e => e.message.releasedKey?.isSome).filter Event.isNote = rest := by
  induction l with
  | nil => cases last
  | cons e l ih =>
    by_cases note : e.isNote
    · rw [List.filter_cons_of_pos note] at last
      cases last
      exact ⟨rfl, rfl⟩
    · have silent : e.message.releasedKey? = none := by
        rw [← Option.not_isSome_iff_eq_none]
        exact fun releases => note (isNote_of_releasedKey? releases)
      rw [List.filter_cons_of_neg note] at last
      obtain ⟨finds, erases⟩ := ih last
      refine ⟨by rw [List.findSome?_cons, silent, finds], ?_⟩
      rw [List.eraseP_cons_of_neg (by simp [silent]), List.filter_cons_of_neg note, erases]

theorem findSome?_of_filter_eq_nil {l : List Event}
    (none_heard : (l.filter Event.isNote) = []) :
    (l.findSome? fun e => e.message.releasedKey?) = none := by
  rw [List.findSome?_eq_none_iff]
  intro e mem
  rw [← Option.not_isSome_iff_eq_none]
  intro releases
  exact List.filter_eq_nil_iff.1 none_heard e mem (isNote_of_releasedKey? releases)

/-! ### The invariant -/

/-- What was heard so far, in terms of the last note: `settled` is all of it but the end of that
note.  A joined note is held; otherwise its end was heard last. -/
def Sounds (s : VoiceState) (channel : Channel) (settled : List Event) : Option Note → Prop
  | none => s.tied = none ∧ settled = [] ∧ s.heard = []
  | some x =>
    if x.joined then s.tied = some x.key ∧ s.heard = settled
    else s.tied = none ∧ s.heard = settled ++ [⟨x.stop, .noteOff channel x.key 0⟩]

/-- The invariant looks at the events and the tie alone. -/
theorem Sounds.congr {s s' : VoiceState} {channel : Channel} {settled : List Event}
    {last : Option Note} (sounds : s.Sounds channel settled last) (heard : s'.heard = s.heard)
    (tied : s'.tied = s.tied) : s'.Sounds channel settled last := by
  cases last with
  | none => exact ⟨tied.trans sounds.1, sounds.2.1, heard.trans sounds.2.2⟩
  | some x =>
    unfold Sounds at sounds ⊢
    rwa [heard, tied]

/-- Taking back the last end joins the last note. -/
theorem Sounds.tieBack {s : VoiceState} {channel : Channel} {settled : List Event}
    {last : Option Note} (sounds : s.Sounds channel settled last) :
    s.tieBack.Sounds channel settled (last.map (Note.joinedBy · true)) := by
  unfold VoiceState.tieBack
  cases last with
  | none =>
    -- Without a note there is nothing to tie, whatever tempos there are.
    obtain ⟨untied, rfl, silent⟩ := sounds
    have nothing : s.lastReleased? = none :=
      findSome?_of_filter_eq_nil (List.reverse_eq_nil_iff.1 silent)
    rw [if_neg (by simp [untied]), nothing]
    exact ⟨untied, rfl, silent⟩
  | some x =>
    have joined : (x.joinedBy true).joined = true := Bool.or_true _
    rw [Option.map_some, Sounds, if_pos joined]
    rw [Sounds] at sounds
    split at sounds
    · obtain ⟨tied, heard⟩ := sounds
      rw [if_pos (by simp [tied])]
      exact ⟨tied, heard⟩
    · obtain ⟨untied, heard⟩ := sounds
      obtain ⟨finds, erases⟩ := takeBack_of_filter (heard_eq_concat_iff.1 heard)
      have key : s.lastReleased? = some x.key := finds
      rw [if_neg (by simp [untied]), key]
      refine ⟨rfl, ?_⟩
      unfold VoiceState.heard
      rw [erases, List.reverse_reverse]

/-- Playing a note ends the last one and starts the new one, unless that one carries on. -/
theorem Sounds.play {s s' : VoiceState} {channel : Channel} {settled : List Event}
    {last : Option Note} {y : Note} (sounds : s.Sounds channel settled last)
    (start : y.start = s.time) (velocity : y.velocity = VoiceState.velocity s.volume)
    (plays : s.play channel y.key y.ticks y.joined = .ok s') (final : Nat) :
    s'.Sounds channel
      (settled ++ (last.map fun x => x.release channel final (some y)).getD [] ++
        y.attack channel last) (some y) := by
  obtain ⟨-, rfl⟩ := play_eq_ok_iff.1 plays
  -- Whatever happens before the note ends, it remains to say what is heard and held then.
  suffices heard : ((s.releaseOther channel y.key).press channel y.key).heard =
      settled ++ (last.map fun x => x.release channel final (some y)).getD [] ++
        y.attack channel last by
    rw [Sounds]
    unfold lift
    split
    · exact ⟨rfl, heard⟩
    · refine ⟨rfl, ?_⟩
      rw [Note.stop, start, ← heard]
      exact heard_emit { (s.releaseOther channel y.key).press channel y.key with
        time := s.time + y.ticks } (.noteOff channel y.key 0)
  cases last with
  | none =>
    obtain ⟨untied, rfl, silent⟩ := sounds
    simp [releaseOther, press, untied, heard_emit, silent, Note.attack, Message.isNote, start,
      velocity]
  | some x =>
    rw [Sounds] at sounds
    split at sounds
    · next joined =>
      obtain ⟨tied, heard⟩ := sounds
      -- A held key sounds on if it is the key of `y`, and ends where `y` starts if it is not.
      by_cases same : x.key = y.key
      · simp [releaseOther, press, tied, same, heard, Note.release, Note.attack, Note.carriesInto,
          joined]
      · have releases : s.releaseOther channel y.key =
            { s.emit (.noteOff channel x.key 0) with tied := none } := by
          simp [releaseOther, tied, same]
        have ended : ({ s.emit (.noteOff channel x.key 0) with tied := none } :
            VoiceState).heard = settled ++ [⟨y.start, .noteOff channel x.key 0⟩] := by
          rw [start, ← heard]
          exact heard_emit s (.noteOff channel x.key 0)
        rw [releases, press, if_neg (by simp), heard_emit, ended]
        simp [emit, Message.isNote, Note.release, Note.attack, Note.carriesInto, Note.releaseTime,
          joined, same, start, velocity]
    · next free =>
      obtain ⟨untied, heard⟩ := sounds
      simp [releaseOther, press, untied, heard, heard_emit, Message.isNote, Note.release,
        Note.attack, Note.carriesInto, Note.releaseTime, free, start, velocity]

/-! ### Runs -/

/-- The notes that tokens play are heard one after the other: by induction on the tokens, where the
last note may still be joined by a length to come. -/
theorem Sounds.applyAll {c : Setting} {s s' : VoiceState} {ts : List Token}
    {settled : List Event} {last : Option Note} (sounds : s.Sounds c.channel settled last)
    (runs : s.applyAll c ts = .ok s') (final : Nat) :
    ∃ settled' last', s'.Sounds c.channel settled' last' ∧
      settled' ++ Note.eventsFrom c.channel final last' [] =
        settled ++ Note.eventsFrom c.channel final
          (last.map (Note.joinedBy · (Token.joinsBefore ts))) (s.playhead.notes c.range ts) := by
  induction ts generalizing s settled last with
  | nil =>
    cases runs
    refine ⟨settled, last, sounds, ?_⟩
    have none_joins : Token.joinsBefore [] = false := rfl
    simp only [none_joins, Note.joinedBy_false, Option.map_id']
    rfl
  | cons t ts ih =>
    obtain ⟨mid, plays, rest⟩ := applyAll_cons_eq_ok_iff.1 runs
    rw [Token.joinsBefore_cons, Playhead.notes, ← playhead_apply plays]
    cases takes_of_apply plays with
    | @note y mid note ends =>
      have played := s.playhead.isSome_note? c.range t
      rw [note] at played
      obtain ⟨start, velocity, -⟩ := Playhead.note?_spec note
      obtain ⟨settled', last', sounds', same⟩ := ih (sounds.play start velocity ends final) rest
      refine ⟨settled', last', sounds', ?_⟩
      simp only [note, same, ← played, Option.isSome_some, Bool.not_true, Bool.false_and,
        Note.joinedBy_false, Option.map_id', Note.eventsFrom_cons, Option.map_some,
        List.append_assoc]
    | join silent joins =>
      have moved : (s.moveTo (s.playhead.pass t)).Sounds c.channel settled last :=
        sounds.congr rfl rfl
      obtain ⟨settled', last', sounds', same⟩ := ih moved.tieBack rest
      refine ⟨settled', last', sounds', ?_⟩
      simp [Playhead.note?_eq_none silent, same, silent, joins, Option.map_map, Function.comp_def]
    | @tempo value silent free gives still =>
      have heard : (s.emit (.tempo value)).heard = s.heard :=
        (heard_emit s (.tempo value)).trans (List.append_nil _)
      obtain ⟨settled', last', sounds', same⟩ := ih (sounds.congr heard rfl) rest
      refine ⟨settled', last', sounds', ?_⟩
      simp [Playhead.note?_eq_none silent, same, silent, free]
    | move silent free fits =>
      have moved : (s.moveTo (s.playhead.pass t)).Sounds c.channel settled last :=
        sounds.congr rfl rfl
      obtain ⟨settled', last', sounds', same⟩ := ih moved rest
      refine ⟨settled', last', sounds', ?_⟩
      simp [Playhead.note?_eq_none silent, same, silent, free]

/-- At the end of a voice the last note ends, when the voice ends if it is held. -/
theorem Sounds.finish {c : Setting} {s : VoiceState} {settled : List Event} {last : Option Note}
    {track : Track} (sounds : s.Sounds c.channel settled last) (ends : s.finish c = .ok track) :
    track.noteEvents = settled ++ Note.eventsFrom c.channel s.time last [] := by
  obtain ⟨-, rfl⟩ := finish_eq_ok_iff.1 ends
  -- The end of the track is no note, and what is heard before it is the end of a held note.
  have heard : (s.releaseHeld c.channel).heard =
      settled ++ Note.eventsFrom c.channel s.time last [] := by
    unfold releaseHeld
    cases last with
    | none =>
      obtain ⟨untied, rfl, silent⟩ := sounds
      rw [untied]
      exact silent
    | some x =>
      rw [Sounds] at sounds
      split at sounds
      · next joined =>
        rw [sounds.1]
        refine (heard_emit s (.noteOff c.channel x.key 0)).trans ?_
        simp [sounds.2, Message.isNote, Note.eventsFrom, Note.release, Note.releaseTime,
          Note.events, joined]
      · next free =>
        rw [sounds.1]
        simp [sounds.2, Note.eventsFrom, Note.release, Note.releaseTime, Note.events, free]
  have silent : [(⟨s.time + s.length, .endOfTrack⟩ : Event)].filter Event.isNote = [] := rfl
  rw [← heard, Track.noteEvents, List.filter_append, List.filter_reverse, silent, List.append_nil]
  rfl

end VoiceState

/-- The notes of a compiled voice are those that are written in it. -/
theorem noteEvents_of_runs {c : Setting} {s : VoiceState} {start : Nat} {ts : List Token}
    {track : Track} (runs : ({ time := start } : VoiceState).applyAll c ts = .ok s)
    (ends : s.finish c = .ok track) :
    track.noteEvents =
      Note.events c.channel ((Playhead.initial start).passAll ts).time none
        ((Playhead.initial start).notes c.range ts) := by
  have silent : ({ time := start } : VoiceState).Sounds c.channel [] none := ⟨rfl, rfl, rfl⟩
  obtain ⟨settled, last, sounds, same⟩ := silent.applyAll runs s.time
  have time : s.time = ((Playhead.initial start).passAll ts).time :=
    congrArg Playhead.time (VoiceState.playhead_applyAll runs)
  rw [sounds.finish ends, same, ← time]
  rfl

/-- **Ties**: the starts and ends of notes in a compiled voice, in order, are those of the notes
that are written in it. -/
theorem noteEvents_compileVoice {p : Policy} {c : Setting} {voice : String} {start : Nat}
    {track : Track} (compiles : (compileVoice p c voice start).result = .ok track) :
    track.noteEvents =
      Note.events c.channel ((Playhead.initial start).passAll (tokensOf voice)).time none
        ((Playhead.initial start).notes c.range (tokensOf voice)) := by
  obtain ⟨s, runs, ends⟩ := compileVoice_eq_ok compiles
  exact noteEvents_of_runs runs ends

/-- A note that a length joins to the next one of its key, and notes that sound on over a rest and
to the end. -/
theorem noteEvents_compileVoice_joined :
    ∃ track, (compileVoice .strict ⟨⟨0⟩, .standard⟩ "c4 t120 l8& c d& r > d&" 384).result =
        .ok track ∧
      track.noteEvents =
        Note.events ⟨0⟩
          ((Playhead.initial 384).passAll (tokensOf "c4 t120 l8& c d& r > d&")).time none
          ((Playhead.initial 384).notes .standard (tokensOf "c4 t120 l8& c d& r > d&")) :=
  have compiles : (compileVoice .strict ⟨⟨0⟩, .standard⟩ "c4 t120 l8& c d& r > d&" 384).result =
      .ok [⟨384, .noteOn ⟨0⟩ 60 64⟩, ⟨480, .tempo 500000⟩, ⟨528, .noteOff ⟨0⟩ 60 0⟩,
        ⟨528, .noteOn ⟨0⟩ 62 64⟩, ⟨624, .noteOff ⟨0⟩ 62 0⟩, ⟨624, .noteOn ⟨0⟩ 74 64⟩,
        ⟨672, .noteOff ⟨0⟩ 74 0⟩, ⟨720, .endOfTrack⟩] := by
    decide +kernel
  ⟨_, compiles, noteEvents_compileVoice compiles⟩

end MusicMacro
