import Weave.Proofs.Command.Printing
import Weave.Proofs.Document.Causality
import Weave.Proofs.Text.Cutting
import Weave.Proofs.Text.Decoding

namespace Weave

namespace Utf8.Decoder

/-! The text that was decoded earlier takes no part in decoding. -/

def onto (earlier : Text) (decoder : Decoder) : Decoder :=
  { decoder with reversed := decoder.reversed ++ earlier }

theorem text_onto (earlier : Text) (decoder : Decoder) :
    (decoder.onto earlier).text = earlier.reverse ++ decoder.text := by
  simp [text, onto]

theorem push_onto (earlier : Text) (decoder : Decoder) (byte : UInt8) :
    (decoder.onto earlier).push byte = (decoder.push byte).map (onto earlier) := by
  simp only [push, onto]
  split <;> rfl

theorem pushAll_onto (earlier : Text) (decoder : Decoder) (bytes : Bytes) :
    (decoder.onto earlier).pushAll bytes = (decoder.pushAll bytes).map (onto earlier) := by
  induction bytes generalizing decoder with
  | nil => rfl
  | cons byte bytes ih =>
      simp only [pushAll, push_onto]
      cases decoder.push byte with
      | error fault => rfl
      | ok next => exact ih next

end Utf8.Decoder

namespace Source

open Utf8

/-- The lines of a content that comes in blocks. Between two blocks nothing is kept but
the bytes of an unfinished character and the text of an unfinished line; the lines that a
block completes are given before the next block is looked at. -/
def readBlocks (held : Bytes) (pending : Text) : List Bytes → Produced Utf8.Fault
  | [] =>
      match Decoder.leftover held with
      | some fault => ⟨[], some fault⟩
      | none => ⟨if pending = [] then [] else [pending], none⟩
  | block :: rest =>
      match Decoder.pushAll ⟨held, held.length, []⟩ block with
      | .error fault => ⟨[], some fault⟩
      | .ok next =>
          let text := pending ++ next.text
          let later := readBlocks next.held (Lines.pending text) rest
          ⟨Lines.complete text ++ later.lines, later.fault⟩

def readIn (size : Nat) (content : Bytes) : Produced Utf8.Fault :=
  readBlocks [] [] (blocks size content)

/-- The lines of a decoded text; after a fault, those that have come to their end. -/
def ofDecoded : Text × Option Utf8.Fault → Produced Utf8.Fault
  | (text, none) => ⟨Lines.ofText text, none⟩
  | (text, some fault) => ⟨Lines.complete text, some fault⟩

/-- Reading on from a decoder whose text is cut behind a newline gives the lines that are
still missing. -/
theorem ofDecoded_decodeBlocks {decoder : Decoder} {front pending : Text}
    (hfront : Lines.Settled front) (hpending : '\n' ∉ pending)
    (htext : decoder.text = front ++ pending) (blocks : List Bytes) :
    ofDecoded (decoder.decodeBlocks blocks) =
      ⟨Lines.ofText front ++ (readBlocks decoder.held pending blocks).lines,
        (readBlocks decoder.held pending blocks).fault⟩ := by
  have hcut : Lines.complete decoder.text = Lines.ofText front := by
    rw [htext, Lines.complete_append_of_settled hfront,
      Lines.complete_of_no_newline hpending, List.append_nil]
  induction blocks generalizing decoder front pending with
  | nil =>
      simp only [Decoder.decodeBlocks, readBlocks]
      cases Decoder.leftover decoder.held with
      | some fault => simp [ofDecoded, hcut]
      | none =>
          simp [ofDecoded, htext, Lines.ofText_append_of_settled hfront,
            Lines.ofText_of_no_newline hpending]
  | cons block blocks ih =>
      have hwindow : decoder.newWindow =
          Decoder.onto decoder.reversed ⟨decoder.held, decoder.held.length, []⟩ := by
        simp [Decoder.newWindow, Decoder.onto]
      simp only [Decoder.decodeBlocks, readBlocks, hwindow, Decoder.pushAll_onto]
      cases Decoder.pushAll ⟨decoder.held, decoder.held.length, []⟩ block with
      | error fault => simp [Except.map, ofDecoded, hcut]
      | ok next =>
          -- The cut moves on to the last newline of the text so far.
          have hmoved : (next.onto decoder.reversed).text =
              (front ++ Lines.settled (pending ++ next.text)) ++
                Lines.pending (pending ++ next.text) := by
            rw [List.append_assoc, Lines.settled_append_pending, ← List.append_assoc,
              ← htext, Decoder.text_onto]
            rfl
          have hsettled := hfront.append (Lines.settled_settled (pending ++ next.text))
          have hnewline := Lines.newline_not_mem_pending (pending ++ next.text)
          have hlater := ih hsettled hnewline hmoved (by
            rw [hmoved, Lines.complete_append_of_settled hsettled,
              Lines.complete_of_no_newline hnewline, List.append_nil])
          rw [Lines.ofText_append_of_settled hfront, ← Lines.complete_eq_settled,
            List.append_assoc] at hlater
          exact hlater

theorem readIn_eq (size : Nat) (content : Bytes) :
    readIn size content = ofDecoded (decode size content) := by
  have hread := @ofDecoded_decodeBlocks {} [] [] (.inl rfl) List.not_mem_nil rfl
    (blocks size content)
  rw [decode, hread]
  rfl

theorem lines_eq_readIn (content : Bytes) : lines content = readIn blockSize content := by
  rw [readIn_eq]
  simp only [lines]
  split <;> simp_all [ofDecoded]

theorem readIn_encode (size : Nat) (text : Text) :
    readIn size (encode text) = ⟨Lines.ofText text, none⟩ := by
  rw [readIn_eq, decode_encode]
  rfl

/-- A content that is no text gives lines of the text it begins with, each of them whole,
and then a fault. -/
theorem readIn_of_invalid {content : Bytes} (hcontent : ∀ text, content ≠ encode text)
    {valid : Text} (hvalid : Longest content valid) (size : Nat) :
    ∃ read flaw, readIn size content = ⟨read, some flaw⟩ ∧
      read <+: Lines.complete valid := by
  rw [readIn_eq]
  have hbegins := encode_decode_prefix size content
  have hwhole := @encode_decode_of_no_fault size content
  cases hdecode : decode size content with
  | mk text fault =>
      rw [hdecode] at hbegins hwhole
      cases fault with
      | none => exact absurd (hwhole rfl).symm (hcontent text)
      | some flaw =>
          obtain ⟨rest, hrest⟩ := hvalid.longest text hbegins
          refine ⟨Lines.complete text, flaw, rfl, ?_⟩
          rw [← hrest]
          exact Lines.complete_prefix text rest

theorem openedLines_eq_readIn {disk : Disk} {path : Path} {location : Location}
    (hopen : disk.openFile path = .ok location) :
    openedLines disk path =
      (readIn blockSize (disk.tree.content location)).mapFault .text := by
  simp only [openedLines, hopen, lines_eq_readIn]

/-- The document of an opened file is what a run over its lines gives, with the fault
that the run meets. -/
theorem openedDocument_eq_produced {disk : Disk} {path : Path} {order : Order}
    {subject : Subject} (hsubject : order.subject? path = some subject)
    {events : List (Document.Event Fault)}
    (hruns : Document.Maker.Runs subject order.moment {} (openedLines disk path) events) :
    order.openedDocument disk path = Document.Event.produced events := by
  rw [Order.openedDocument_of_subject hsubject disk, Document.Maker.produced_of_runs hruns]

/-- The blocks of a file cannot be seen in its lines. A file that is a text gives the
lines of that text, and any other gives some of the whole lines that come before its
first fault; what makes a document of these takes them, gives what comes of them and
meets the fault, and that is all of the document. -/
theorem lines_in_blocks {disk : Disk} {path : Path} {location : Location} {content : Bytes}
    {order : Order} {language : Option Text}
    (hopen : disk.openFile path = .ok location)
    (hcontent : disk.tree.content location = content)
    (hlanguage : order.language = Choice.ofOption language) :
    openedLines disk path = (readIn blockSize content).mapFault .text ∧
    (∀ text, content = encode text →
      (∀ size, readIn size content = ⟨Lines.ofText text, none⟩) ∧
      openedLines disk path = ⟨Lines.ofText text, none⟩) ∧
    ((∀ text, content ≠ encode text) →
      ∃ valid, Longest content valid ∧
        (∀ size, ∃ read flaw, readIn size content = ⟨read, some flaw⟩ ∧
          read <+: Lines.complete valid) ∧
        ∃ read flaw events, openedLines disk path = ⟨read, some (.text flaw)⟩ ∧
          read <+: Lines.complete valid ∧
          (∀ other, Document.Maker.Runs (Subject.ofPath order.settings language path)
              order.moment {} (openedLines disk path) other ↔ other = events) ∧
          Document.Broken (Subject.ofPath order.settings language path) read
            (.text flaw) events ∧
          order.openedDocument disk path = Document.Event.produced events ∧
          order.openedDocument disk path =
            ⟨Document.body (Subject.ofPath order.settings language path) read,
              some (.text flaw)⟩) := by
  have hlines := openedLines_eq_readIn hopen
  rw [hcontent] at hlines
  refine ⟨hlines, ?_, ?_⟩
  · rintro text rfl
    refine ⟨fun size => readIn_encode size text, ?_⟩
    rw [hlines, readIn_encode]
    rfl
  · intro hinvalid
    obtain ⟨valid, hvalid⟩ := exists_longest content
    refine ⟨valid, hvalid, readIn_of_invalid hinvalid hvalid, ?_⟩
    obtain ⟨read, flaw, hread, hwhole⟩ := readIn_of_invalid hinvalid hvalid blockSize
    have hstopped : openedLines disk path = ⟨read, some (.text flaw)⟩ := by
      rw [hlines, hread]
      rfl
    obtain ⟨events, hevents⟩ : ∃ events, ∀ other,
        Document.Maker.Runs (Subject.ofPath order.settings language path) order.moment {}
          (openedLines disk path) other ↔ other = events :=
      ⟨_, fun other => Document.Maker.runs_iff_making⟩
    have hruns := (hevents events).mpr rfl
    have hproduced :=
      openedDocument_eq_produced (Order.subject?_of_language hlanguage path) hruns
    rw [hstopped] at hruns
    have hbroken := Document.Maker.broken_of_runs hruns
    exact ⟨read, flaw, events, hstopped, hwhole, hevents, hbroken, hproduced,
      hproduced.trans hbroken.produced⟩

/-- Two files: a text with a wide character and a line that ends in two characters, and a
text that is cut inside a wide character. -/
def blockDisk : Disk where
  tree := ⟨[Sample.file "whole" "é\r\nx",
    (["cut".toList], .file [97, 10, 98, 0xE2, 0x82])]⟩

theorem ne_encode_of_fault {content : Bytes} (hfault : (decode blockSize content).2 ≠ none)
    (text : Text) : content ≠ encode text := by
  rintro rfl
  exact hfault (congrArg Prod.snd (decode_encode blockSize text))

theorem lines_in_blocks_sample :
    (∀ size, readIn size (encode "é\r\nx".toList) =
        ⟨["é".toList, "x".toList], none⟩) ∧
      (∀ text, ([97, 10, 98, 0xE2, 0x82] : Bytes) ≠ encode text) ∧
      (∃ read flaw events,
        openedLines blockDisk (Sample.path "cut") = ⟨read, some (.text flaw)⟩ ∧
        Document.Broken ⟨"js".toList, "cut".toList⟩ read (Fault.text flaw) events ∧
        Sample.order.openedDocument blockDisk (Sample.path "cut") =
          Document.Event.produced events) := by
  have hinvalid := @ne_encode_of_fault [97, 10, 98, 0xE2, 0x82] (by decide)
  have hwhole := @lines_in_blocks blockDisk (Sample.path "whole") ["whole".toList] _
    Sample.order none rfl rfl rfl
  have hcut := @lines_in_blocks blockDisk (Sample.path "cut") ["cut".toList] _
    Sample.order none rfl rfl rfl
  refine ⟨(hwhole.2.1 "é\r\nx".toList rfl).1, hinvalid, ?_⟩
  obtain ⟨-, -, -, read, flaw, events, hread, -, -, hbroken, hdocument, -⟩ :=
    hcut.2.2 hinvalid
  exact ⟨read, flaw, events, hread, hbroken, hdocument⟩

end Source

end Weave
