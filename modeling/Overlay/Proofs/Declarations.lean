import Overlay.Proofs.Decoding
import Overlay.Proofs.Exchange
import Overlay.Proofs.Places

namespace Overlay

/-!
# What declared bytes decide

A peer may declare any bytes. They are decoded before they are looked at, but the close sentinel and
the API marker are ASCII, and decoding neither makes ASCII text nor loses it: the bytes decide.

* `Bears` — the marker's bytes stand in the declared bytes;
* `DecidedBy` — the three outcomes of an exchange, by the bytes alone;
* `Introduction.decidedBy_ofBytes` — the decision on any bytes;
* `NameExchange.outcome_by_bytes` — every exchange that reads a name.
-/

/-- The bytes of the API marker stand somewhere in the declared bytes. -/
def Bears (declared : ByteArray) : Prop :=
  apiMarker.toUTF8.data.toList <:+: declared.data.toList

instance (declared : ByteArray) : Decidable (Bears declared) :=
  inferInstanceAs (Decidable (_ <:+: _))

/-- The declared bytes alone decide what a peer is. -/
structure DecidedBy (declared : ByteArray) (i : Introduction) : Prop where
  /-- The bytes are read as text, flaw by flaw. -/
  decoded : Text.Lossy declared.data.toList (Text.decode declared).toList
  /-- The text is the sentinel exactly if the bytes are. -/
  sentinel : Text.decode declared = closeSentinel ↔ declared = closeSentinel.toUTF8
  /-- The text bears the marker exactly if the bytes do. -/
  marker : isMarked (Text.decode declared) ↔ Bears declared
  /-- The peer is turned down exactly if it declared the sentinel. -/
  declined : i = .declined ↔ declared = closeSentinel.toUTF8
  /-- Otherwise it is an API client exactly if it declared the marker. -/
  client : declared ≠ closeSentinel.toUTF8 →
    ((∃ name, i = .accepted ⟨.api, name⟩) ↔ Bears declared)
  /-- And the parent exactly if it did not. -/
  parent : declared ≠ closeSentinel.toUTF8 →
    ((∃ name, i = .accepted ⟨.parent, name⟩) ↔ ¬ Bears declared)

/-- Decoding makes no sentinel and loses none. -/
theorem decode_eq_closeSentinel_iff {declared : ByteArray} :
    Text.decode declared = closeSentinel ↔ declared = closeSentinel.toUTF8 :=
  Text.decode_eq_iff (by decide)

/-- Decoding makes no marker and loses none. -/
theorem isMarked_decode_iff {declared : ByteArray} :
    isMarked (Text.decode declared) ↔ Bears declared :=
  Text.ascii_infix_iff (Text.isAscii_of_all (by decide))

/-- The role of a peer that declares these bytes, unless they are the sentinel. -/
def Role.ofBytes (declared : ByteArray) : Role :=
  ⟨Introduction.rankOf (Text.decode declared), Text.decode declared⟩

namespace Introduction

theorem rankOf_eq_api_iff {name : String} : rankOf name = .api ↔ isMarked name := by
  unfold rankOf isMarked
  rw [← occursIn_iff]
  split <;> simp_all

theorem rankOf_eq_parent_iff {name : String} : rankOf name = .parent ↔ ¬ isMarked name := by
  rw [← rankOf_eq_api_iff]
  cases rankOf name <;> decide

/-- Bytes other than the sentinel give their peer the role of their text. -/
theorem ofBytes_of_ne {declared : ByteArray} (h : declared ≠ closeSentinel.toUTF8) :
    ofBytes declared = .accepted (Role.ofBytes declared) :=
  if_neg (mt decode_eq_closeSentinel_iff.1 h)

/-- Bytes other than the sentinel give a rank exactly if their text has it. -/
theorem exists_accepted_iff {declared : ByteArray} (h : declared ≠ closeSentinel.toUTF8)
    (rank : Rank) : (∃ name, ofBytes declared = .accepted ⟨rank, name⟩) ↔
      rankOf (Text.decode declared) = rank := by
  rw [ofBytes_of_ne h]
  constructor
  · rintro ⟨name, hname⟩
    injection hname with hrole
    injection hrole
  · rintro rfl
    exact ⟨_, rfl⟩

/-- **The bytes decide**, whatever text they stand for. -/
theorem decidedBy_ofBytes (declared : ByteArray) : DecidedBy declared (ofBytes declared) where
  decoded := by
    rw [Text.decode, String.toList_ofList]
    exact Text.lossy_decodeChars _
  sentinel := decode_eq_closeSentinel_iff
  marker := isMarked_decode_iff
  declined := ofName_eq_declined_iff.trans decode_eq_closeSentinel_iff
  client := by
    intro h
    rw [exists_accepted_iff h, rankOf_eq_api_iff, isMarked_decode_iff]
  parent := by
    intro h
    rw [exists_accepted_iff h, rankOf_eq_parent_iff, isMarked_decode_iff]

end Introduction

namespace NameExchange

open Overlay.Frame

/-- **Whatever bytes a peer declares, they alone decide the outcome of the exchange.** -/
theorem outcome_by_bytes (reader : Reader) (sink : Sink) (localName peer : String)
    (declared : ByteArray) (greets : Greets sink localName.toUTF8)
    (reads : reader.read.1 = .ok declared) :
    ∃ i, (run reader sink localName peer).result = .ok i ∧ DecidedBy declared i := by
  rw [run_of_read greets (Prod.ext reads rfl)]
  exact ⟨_, rfl, Introduction.decidedBy_ofBytes declared⟩

/-- A sequence cut short right before the marker costs it no byte: the peer is a client. -/
theorem client_behind_cut_sequence :
    let declared : ByteArray := ⟨#[0xE2, 0x82, 0x61, 0x70, 0x69, 0x2D, 0xFF]⟩
    let reader := Reader.ofPieces [wire declared]
    Greets {} "root".toUTF8 ∧ reader.read.1 = .ok declared ∧
      ∃ name, (run reader {} "root" "10.0.0.7:4001").result = .ok (.accepted ⟨.api, name⟩) := by
  intro declared reader
  have hgreets : Greets {} "root".toUTF8 :=
    ⟨by decide, ⟨by simp, by simp⟩, rfl⟩
  have hread : reader.read.1 = .ok declared := by decide +kernel
  refine ⟨hgreets, hread, ?_⟩
  obtain ⟨i, hi, hdecided⟩ :=
    outcome_by_bytes reader {} "root" "10.0.0.7:4001" declared hgreets hread
  obtain ⟨name, rfl⟩ := (hdecided.client (by decide)).2 (by decide)
  exact ⟨name, hi⟩

end NameExchange

end Overlay
