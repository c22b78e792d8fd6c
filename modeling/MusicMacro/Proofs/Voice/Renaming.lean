import MusicMacro.Proofs.Voice.Arrangement

/-!
# Moving a voice to another channel

The channel of a voice is carried into its messages and looked at nowhere: played on the image of
its channel under any map, a voice comes to the image of its track
(`result_compileVoice_mapChannel`).  This is an arrangement that leaves everything else as it is.
-/

namespace MusicMacro

/-! ### Channels of events -/

/-- A message on the image of its channel, if it has one. -/
def Message.mapChannel (f : Channel → Channel) : Message → Message
  | programChange channel program => programChange (f channel) program
  | controlChange channel controller value => controlChange (f channel) controller value
  | noteOn channel key velocity => noteOn (f channel) key velocity
  | noteOff channel key velocity => noteOff (f channel) key velocity
  | m => m

/-- An event on the image of its channel. -/
def Event.mapChannel (f : Channel → Channel) (e : Event) : Event :=
  { e with message := e.message.mapChannel f }

/-- A track on the images of its channels. -/
def Track.mapChannel (f : Channel → Channel) (track : Track) : Track :=
  track.map (Event.mapChannel f)

/-- A setting with the image of its channel. -/
def Setting.mapChannel (f : Channel → Channel) (c : Setting) : Setting :=
  { c with channel := f c.channel }

/-- The arrangement that plays on the images of channels. -/
def Arrangement.onChannel (f : Channel → Channel) : Arrangement :=
  { plain with
    channel := f
    message? m := some (m.mapChannel f)
    noteOn _ _ _ := rfl
    noteOff _ _ := rfl
    endOfTrack := rfl
    releasedKey? m := by cases m <;> rfl }

theorem Arrangement.track_onChannel (f : Channel → Channel) (t : Track) :
    (onChannel f).track t = Track.mapChannel f t := by
  have event : (onChannel f).event? = fun e => some (e.mapChannel f) := rfl
  rw [track, event, List.filterMap_eq_map', Track.mapChannel]

/-- **A voice on another channel**: played on the image of its channel, it comes to the image of its
track. -/
theorem result_compileVoice_mapChannel (f : Channel → Channel) (p : Policy) (c : Setting)
    (voice : String) (start : Nat) :
    (compileVoice p (c.mapChannel f) voice start).result =
      (compileVoice p c voice start).result.map (Track.mapChannel f) := by
  have keeps := Arrangement.keeps_of_unchanged (a := .onChannel f) (fun _ => rfl) fun _ => rfl
  have arranged := result_compileVoice_arranged (.onChannel f) p c voice start
    (fun t _ => keeps t.command) (.inl rfl)
  rwa [funext (Arrangement.track_onChannel f)] at arranged

end MusicMacro
