import MusicMacro.Midi.File.Listing
import MusicMacro.Proofs.Midi.Message
import MusicMacro.Proofs.Text

/-!
# Listings tell files apart

Files with the same listing are the same file (`MidiFile.listing_inj`).  A message starts with words
that tell its kind, none of which is how another kind starts, and what follows is read according to
the kind (`Message.description_inj`).  The time of an event ends at the first space, and since there
is one, no event is taken for the mark at the end of a track.
-/

namespace MusicMacro

theorem byteList_inj {a b : ByteArray} : byteList a = byteList b ↔ a = b := by
  constructor
  · intro same
    rw [← toByteArray_byteList a, same, toByteArray_byteList]
  · rintro rfl
    rfl

theorem toString_text (s : String) : toString s = s := rfl

theorem Channel.toString_eq (c : Channel) : toString c = toString c.number := rfl

theorem Channel.number_inj {c d : Channel} : c.number = d.number ↔ c = d := by
  constructor
  · intro same
    have found : some c = some d := by
      rw [← ofNumber?_number, same, ofNumber?_number]
    exact Option.some.inj found
  · rintro rfl
    rfl

/-! ### Data bytes with letters -/

/-- A number and then data bytes, each behind its letter. -/
def lettered (first : Nat) (values : List (Char × DataByte)) : List Char :=
  decimal first ++ values.flatMap fun (letter, x) => ' ' :: letter :: '=' :: decimal x.toNat

theorem lettered_nil (first : Nat) : lettered first [] = decimal first :=
  List.append_nil _

theorem lettered_cons (first : Nat) (letter : Char) (x : DataByte)
    (values : List (Char × DataByte)) :
    lettered first ((letter, x) :: values) =
      decimal first ++ ' ' :: letter :: '=' :: lettered x.toNat values := by
  simp [lettered]

/-- Values behind the same letters are told apart, by induction over the letters. -/
theorem lettered_inj {first first' : Nat} {values values' : List (Char × DataByte)}
    (same : lettered first values = lettered first' values')
    (letters : values.map Prod.fst = values'.map Prod.fst) :
    first = first' ∧ values = values' := by
  induction values generalizing first first' values' with
  | nil =>
    obtain rfl : values' = [] := List.map_eq_nil_iff.1 letters.symm
    rw [lettered_nil, lettered_nil] at same
    exact ⟨decimal_inj.1 same, rfl⟩
  | cons value values ih =>
    cases values' with
    | nil => cases letters
    | cons value' values' =>
      obtain ⟨letter, x⟩ := value
      obtain ⟨letter', x'⟩ := value'
      obtain ⟨rfl, more⟩ : letter = letter' ∧ values.map Prod.fst = values'.map Prod.fst :=
        List.cons.inj letters
      rw [lettered_cons, lettered_cons] at same
      obtain ⟨rfl, behind⟩ := decimal_append_inj rfl same
      obtain ⟨number, rfl⟩ := ih (List.cons.inj (List.cons.inj behind).2).2 more
      obtain rfl := BitVec.toNat_inj.1 number
      exact ⟨rfl, rfl⟩

theorem Channel.lettered_inj {c d : Channel} {values values' : List (Char × DataByte)}
    (same : lettered c.number values = lettered d.number values')
    (letters : values.map Prod.fst = values'.map Prod.fst) : c = d ∧ values = values' := by
  obtain ⟨numbers, rfl⟩ := MusicMacro.lettered_inj same letters
  exact ⟨number_inj.1 numbers, rfl⟩

/-! ### Messages -/

namespace Message

/-- The kinds of messages. -/
inductive Kind where
  | tempo
  | programChange
  | controlChange
  | noteOn
  | noteOff
  | sysEx
  | sequencerSpecific
  | text
  | endOfTrack
deriving DecidableEq

/-- The kind of a message. -/
def kind : Message → Kind
  | tempo _ => .tempo
  | programChange .. => .programChange
  | controlChange .. => .controlChange
  | noteOn .. => .noteOn
  | noteOff .. => .noteOff
  | sysEx _ => .sysEx
  | sequencerSpecific _ => .sequencerSpecific
  | text _ => .text
  | endOfTrack => .endOfTrack

/-- How the messages of a kind start. -/
def Kind.opening : Kind → String
  | tempo => "Tempo "
  | programChange => "PrCh ch="
  | controlChange => "Par ch="
  | noteOn => "On ch="
  | noteOff => "Off ch="
  | sysEx => "SysEx"
  | sequencerSpecific => "SeqSpec"
  | text => "Meta Text "
  | endOfTrack => "Meta TrkEnd"

/-- How a message goes on. -/
def details : Message → List Char
  | tempo t => decimal t.toNat
  | programChange channel program => lettered channel.number [('p', program)]
  | controlChange channel controller value =>
    lettered channel.number [('c', controller), ('v', value)]
  | noteOn channel key velocity | noteOff channel key velocity =>
    lettered channel.number [('n', key), ('v', velocity)]
  | sysEx data | sequencerSpecific data => Hex.spaced (byteList data)
  | text s => (quoted s).toList
  | endOfTrack => []

/-- No kind starts as another does. -/
theorem Kind.eq_of_prefix {k l : Kind} (starts : k.opening.toList <+: l.opening.toList) :
    k = l := by
  revert starts
  cases k <;> cases l <;> decide

theorem toList_description (m : Message) :
    m.description.toList = m.kind.opening.toList ++ m.details := by
  cases m <;>
    simp [description, Hex.labelled, kind, Kind.opening, details, lettered, decimal, toString_text,
      Channel.toString_eq]

/-- Messages of one kind that go on alike are the same. -/
theorem eq_of_details {m n : Message} (kinds : m.kind = n.kind) (same : m.details = n.details) :
    m = n := by
  cases m with
  | tempo t =>
    cases n with
    | tempo t' => rw [BitVec.toNat_inj.1 (decimal_inj.1 same)]
    | _ => cases kinds
  | programChange channel program =>
    cases n with
    | programChange channel' program' =>
      obtain ⟨rfl, values⟩ := Channel.lettered_inj same rfl
      cases values
      rfl
    | _ => cases kinds
  | controlChange channel controller value =>
    cases n with
    | controlChange channel' controller' value' =>
      obtain ⟨rfl, values⟩ := Channel.lettered_inj same rfl
      cases values
      rfl
    | _ => cases kinds
  | noteOn channel key velocity =>
    cases n with
    | noteOn channel' key' velocity' =>
      obtain ⟨rfl, values⟩ := Channel.lettered_inj same rfl
      cases values
      rfl
    | _ => cases kinds
  | noteOff channel key velocity =>
    cases n with
    | noteOff channel' key' velocity' =>
      obtain ⟨rfl, values⟩ := Channel.lettered_inj same rfl
      cases values
      rfl
    | _ => cases kinds
  | sysEx data =>
    cases n with
    | sysEx data' => rw [byteList_inj.1 (Hex.spaced_inj.1 same)]
    | _ => cases kinds
  | sequencerSpecific data =>
    cases n with
    | sequencerSpecific data' => rw [byteList_inj.1 (Hex.spaced_inj.1 same)]
    | _ => cases kinds
  | text s =>
    cases n with
    | text s' => rw [quoted_inj.1 (String.toList_inj.1 same)]
    | _ => cases kinds
  | endOfTrack =>
    cases n with
    | endOfTrack => rfl
    | _ => cases kinds

/-- Messages are told apart by their descriptions. -/
theorem description_inj {m n : Message} : m.description = n.description ↔ m = n := by
  constructor
  · intro same
    have split : m.kind.opening.toList ++ m.details = n.kind.opening.toList ++ n.details := by
      rw [← toList_description, ← toList_description, same]
    -- Of two fronts of one text, one is a front of the other.
    have kinds : m.kind = n.kind := by
      rcases List.prefix_or_prefix_of_prefix (List.prefix_append _ m.details)
        (split ▸ List.prefix_append _ n.details) with front | front
      · exact Kind.eq_of_prefix front
      · exact (Kind.eq_of_prefix front).symm
    rw [kinds] at split
    exact eq_of_details kinds (List.append_cancel_left split)
  · rintro rfl
    rfl

end Message

/-! ### Events and tracks -/

theorem Event.toList_description (e : Event) :
    e.description.toList = decimal e.time ++ ' ' :: e.message.description.toList := by
  simp [description, decimal]

theorem Event.description_inj {e f : Event} : e.description = f.description ↔ e = f := by
  constructor
  · intro same
    have split := congrArg String.toList same
    rw [toList_description, toList_description] at split
    obtain ⟨times, messages⟩ := decimal_append_inj rfl split
    cases e
    cases f
    obtain rfl := times
    obtain rfl := Message.description_inj.1 (String.toList_inj.1 messages)
    rfl
  · rintro rfl
    rfl

/-- No event is taken for the end of its track. -/
theorem Track.not_mem_descriptions (t : Track) : "TrkEnd" ∉ t.map Event.description := by
  intro mem
  obtain ⟨e, -, same⟩ := List.mem_map.1 mem
  have space : ' ' ∈ e.description.toList := by
    rw [Event.toList_description]
    exact List.mem_append_right _ List.mem_cons_self
  rw [same] at space
  exact absurd space (by decide)

/-- Tracks are told apart by their lines, whatever lines follow. -/
theorem Track.delimited_listing : Delimited Track.listing := by
  intro t u x y same
  have lines : t.map Event.description ++ "TrkEnd" :: x =
      u.map Event.description ++ "TrkEnd" :: y := by
    simpa [listing] using same
  obtain ⟨events, behind⟩ :=
    append_cons_inj t.not_mem_descriptions u.not_mem_descriptions lines
  exact ⟨(List.map_inj_right fun _ _ => Event.description_inj.1).1 events, behind⟩

/-! ### Files -/

theorem Format.code_inj {m n : Format} : m.code = n.code ↔ m = n := by
  cases m <;> cases n <;> decide

theorem MidiFile.listing_eq (f : MidiFile) :
    ∃ first, f.listing = first :: f.tracks.flatMap Track.listing ∧
      first.toList = "MFile ".toList ++ (decimal f.header.format.code ++ ' ' ::
        (decimal f.tracks.length ++ ' ' :: decimal f.header.division.toNat)) := by
  exact ⟨_, rfl, by simp [decimal, toString_text]⟩

/-- **Listings tell files apart.**  Two files with the same lines have the same format, the same
division and the same tracks, with the same messages at the same times and the same data and texts
in them, whatever these are made of. -/
theorem MidiFile.listing_inj {f g : MidiFile} : f.listing = g.listing ↔ f = g := by
  constructor
  · intro same
    obtain ⟨first, lists, front⟩ := f.listing_eq
    obtain ⟨first', lists', front'⟩ := g.listing_eq
    obtain ⟨rfl, lines⟩ := List.cons.inj ((lists.symm.trans same).trans lists')
    have numbers := List.append_cancel_left (front.symm.trans front')
    obtain ⟨codes, numbers⟩ := decimal_append_inj rfl numbers
    obtain ⟨-, divisions⟩ := decimal_append_inj rfl numbers
    have format : f.header.format = g.header.format := Format.code_inj.1 codes
    have division : f.header.division = g.header.division :=
      BitVec.toNat_inj.1 (decimal_inj.1 divisions)
    have tracks : f.tracks = g.tracks :=
      (Track.delimited_listing.flatMap_inj fun _ => List.cons_ne_nil _ _).1 lines
    calc f = ⟨⟨f.header.format, f.header.division⟩, f.tracks⟩ := rfl
      _ = ⟨⟨g.header.format, g.header.division⟩, g.tracks⟩ := by rw [format, division, tracks]
      _ = g := rfl
  · rintro rfl
    rfl

end MusicMacro
