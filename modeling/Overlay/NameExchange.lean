import Overlay.Frame.Reader
import Overlay.Frame.Sink
import Overlay.Log

namespace Overlay

/-!
# The exchange of names

A node greets every peer with its own name and then reads the name that the peer declares. The
greeting comes first: when it cannot be sent, nothing is read. The reader is handed back, so
that frames that came right behind the name are still to be read.
-/

namespace NameExchange

/-- What an exchange of names comes to. -/
structure Outcome where
  /-- The decision on the peer, or why there is none. -/
  result : Except Failure Introduction
  /-- The peer's stream, read up to the name. -/
  reader : Frame.Reader
  /-- The stream to the peer, with the greeting in it. -/
  sink : Frame.Sink
  /-- What is logged. -/
  log : List Log.Entry := []

/-- What is logged about a decision: only that a peer was turned down. -/
def report (peer : String) : Introduction → List Log.Entry
  | .declined => [.declined peer]
  | .accepted _ => []

/-- Greet a peer with `localName` and read its name. `peer` is how failures call it. -/
def run (reader : Frame.Reader) (sink : Frame.Sink) (localName peer : String) : Outcome :=
  match sink.send localName.toUTF8 with
  | (.error cause, sink) => { result := .error (.greeting peer cause), reader, sink }
  | (.ok (), sink) =>
    match reader.read with
    | (.error cause, reader) => { result := .error (.introduction peer cause), reader, sink }
    | (.ok declared, reader) =>
      let introduction := Introduction.ofBytes declared
      { result := .ok introduction, reader, sink, log := report peer introduction }

end NameExchange

end Overlay
