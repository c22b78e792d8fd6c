import MusicMacro.Midi.Message.Basic
import MusicMacro.Text.Hex
import MusicMacro.Text.Quoted

/-!
# Descriptions of messages

A message in one line of text, with numbers in decimal, data in hexadecimal and text in quotes.
-/

namespace MusicMacro.Message

/-- A message in one line of text. -/
def description : Message → String
  | .tempo t => s!"Tempo {t.toNat}"
  | .programChange channel program => s!"PrCh ch={channel} p={program.toNat}"
  | .controlChange channel controller value =>
    s!"Par ch={channel} c={controller.toNat} v={value.toNat}"
  | .noteOn channel key velocity => s!"On ch={channel} n={key.toNat} v={velocity.toNat}"
  | .noteOff channel key velocity => s!"Off ch={channel} n={key.toNat} v={velocity.toNat}"
  | .sysEx data => Hex.labelled "SysEx" data
  | .sequencerSpecific data => Hex.labelled "SeqSpec" data
  | .text s => "Meta Text " ++ quoted s
  | .endOfTrack => "Meta TrkEnd"

instance : ToString Message := ⟨description⟩

end MusicMacro.Message
