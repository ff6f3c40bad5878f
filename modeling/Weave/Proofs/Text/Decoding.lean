import Weave.Proofs.Text.Spelling

namespace Weave.Utf8

@[simp] theorem encode_nil : encode [] = [] := rfl

@[simp] theorem encode_cons (character : Char) (text : Text) :
    encode (character :: text) = encodeChar character ++ encode text := rfl

namespace Decoder

/-! One byte either ends a character or joins those that are held. -/

theorem push_ok {decoder next : Decoder} {byte : UInt8}
    (hpush : decoder.push byte = .ok next) :
    (∃ character, read (decoder.held ++ [byte]) = .character character ∧
        next = ⟨[], decoder.position + 1, character :: decoder.reversed⟩) ∨
      read (decoder.held ++ [byte]) = .unfinished ∧
        next = ⟨decoder.held ++ [byte], decoder.position + 1, decoder.reversed⟩ := by
  simp only [push] at hpush
  split at hpush
  · next character hread => exact .inl ⟨character, hread, (Except.ok.inj hpush).symm⟩
  · next hread => exact .inr ⟨hread, (Except.ok.inj hpush).symm⟩
  · cases hpush

theorem pushAll_cons {decoder next : Decoder} {byte : UInt8} {rest : Bytes}
    (hpush : decoder.push byte = .ok next) :
    decoder.pushAll (byte :: rest) = next.pushAll rest := by
  simp only [pushAll, hpush]

theorem pushAll_cons_ok {decoder next : Decoder} {byte : UInt8} {rest : Bytes}
    (hpushAll : decoder.pushAll (byte :: rest) = .ok next) :
    ∃ middle, decoder.push byte = .ok middle ∧ middle.pushAll rest = .ok next := by
  simp only [pushAll] at hpushAll
  split at hpushAll
  · next middle hpush => exact ⟨middle, hpush, hpushAll⟩
  · cases hpushAll

theorem pushAll_append_ok {decoder next : Decoder} {front back : Bytes}
    (hpushAll : decoder.pushAll (front ++ back) = .ok next) :
    ∃ middle, decoder.pushAll front = .ok middle ∧ middle.pushAll back = .ok next := by
  rw [pushAll_append] at hpushAll
  split at hpushAll
  · next middle hfront => exact ⟨middle, hfront, hpushAll⟩
  · cases hpushAll

/-- The bytes a decoder has taken are those of its text and those it holds. -/
structure Took (bytes : Bytes) (decoder : Decoder) : Prop where
  unfinished : Unfinished decoder.held
  bytes_eq : encode decoder.text ++ decoder.held = bytes

theorem took_nil : Took [] {} := ⟨unfinished_nil, rfl⟩

namespace Took

variable {bytes : Bytes} {decoder next : Decoder}

theorem push (htook : Took bytes decoder) {byte : UInt8}
    (hpush : decoder.push byte = .ok next) : Took (bytes ++ [byte]) next := by
  rcases push_ok hpush with ⟨character, hread, rfl⟩ | ⟨hread, rfl⟩
  · refine ⟨unfinished_nil, ?_⟩
    rw [← htook.bytes_eq, List.append_assoc, ← htook.unfinished.encodeChar_eq hread]
    simp [text]
  · refine ⟨htook.unfinished.concat hread, ?_⟩
    rw [← htook.bytes_eq, List.append_assoc]
    rfl

theorem pushAll (htook : Took bytes decoder) {more : Bytes}
    (hpushAll : decoder.pushAll more = .ok next) : Took (bytes ++ more) next := by
  induction more generalizing bytes decoder with
  | nil =>
      cases hpushAll
      rwa [List.append_nil]
  | cons byte more ih =>
      obtain ⟨middle, hpush, hrest⟩ := pushAll_cons_ok hpushAll
      rw [List.append_cons]
      exact ih (htook.push hpush) hrest

theorem newWindow (htook : Took bytes decoder) : Took bytes decoder.newWindow :=
  ⟨htook.unfinished, htook.bytes_eq⟩

theorem encode_prefix (htook : Took bytes decoder) : encode decoder.text <+: bytes :=
  ⟨decoder.held, htook.bytes_eq⟩

end Took

theorem text_prefix {decoder next : Decoder} {bytes : Bytes}
    (hpushAll : decoder.pushAll bytes = .ok next) : decoder.text <+: next.text := by
  induction bytes generalizing decoder with
  | nil =>
      cases hpushAll
      exact List.prefix_rfl
  | cons byte bytes ih =>
      obtain ⟨middle, hpush, hrest⟩ := pushAll_cons_ok hpushAll
      refine List.IsPrefix.trans ?_ (ih hrest)
      rcases push_ok hpush with ⟨character, -, rfl⟩ | ⟨-, rfl⟩
      · simp [text]
      · exact List.prefix_rfl

/-- The rest of a spelling turns what is held of it into its character. -/
theorem pushAll_spelling {character : Char} {rest : Bytes} (hrest : rest ≠ [])
    (decoder : Decoder) (hbytes : encodeChar character = decoder.held ++ rest) :
    ∃ position, decoder.pushAll rest =
      .ok ⟨[], position, character :: decoder.reversed⟩ := by
  induction rest generalizing decoder with
  | nil => exact absurd rfl hrest
  | cons byte rest ih =>
      have hspells := spells_encodeChar character
      rw [hbytes] at hspells
      cases rest with
      | nil => exact ⟨decoder.position + 1, by simp [pushAll, push, hspells.read_eq]⟩
      | cons after rest =>
          have hread : read (decoder.held ++ [byte]) = .unfinished := by
            apply hspells.read_front
            · simp
            · simp
            · simp
          have hpush : decoder.push byte =
              .ok ⟨decoder.held ++ [byte], decoder.position + 1, decoder.reversed⟩ := by
            simp only [push, hread]
          rw [pushAll_cons hpush]
          exact ih (by simp) _ (by simp [hbytes])

theorem pushAll_encode (decoder : Decoder) (hheld : decoder.held = []) (text : Text) :
    ∃ next, decoder.pushAll (encode text) = .ok next ∧ next.held = [] ∧
      next.text = decoder.text ++ text := by
  induction text generalizing decoder with
  | nil => exact ⟨decoder, rfl, hheld, by simp⟩
  | cons character text ih =>
      obtain ⟨position, hcharacter⟩ :=
        pushAll_spelling (encodeChar_ne_nil character) decoder
          (by rw [hheld, List.nil_append])
      obtain ⟨next, hnext, hempty, htext⟩ :=
        ih ⟨[], position, character :: decoder.reversed⟩ rfl
      refine ⟨next, ?_, hempty, ?_⟩
      · rw [encode_cons, pushAll_append, hcharacter]
        exact hnext
      · rw [htext]
        simp [Decoder.text]

/-! Where a window begins is for the report of a fault alone. -/

theorem pushAll_moved {decoder next : Decoder} {bytes : Bytes}
    (hpushAll : decoder.pushAll bytes = .ok next) (place : Nat) :
    ∃ position, pushAll { decoder with position := place } bytes =
      .ok { next with position := position } := by
  induction bytes generalizing decoder place with
  | nil =>
      cases hpushAll
      exact ⟨place, rfl⟩
  | cons byte bytes ih =>
      obtain ⟨middle, hpush, hrest⟩ := pushAll_cons_ok hpushAll
      have hmoved : push { decoder with position := place } byte =
          .ok { middle with position := place + 1 } := by
        rcases push_ok hpush with ⟨character, hread, rfl⟩ | ⟨hread, rfl⟩
        · simp only [push, hread]
        · simp only [push, hread]
      obtain ⟨position, hposition⟩ := ih hrest (place + 1)
      exact ⟨position, by rw [pushAll_cons hmoved, hposition]⟩

theorem decodeBlocks_of_pushAll {decoder next : Decoder} {blocks : List Bytes}
    (hpushAll : decoder.pushAll blocks.flatten = .ok next) :
    decoder.decodeBlocks blocks = (next.text, leftover next.held) := by
  induction blocks generalizing decoder next with
  | nil =>
      cases hpushAll
      rfl
  | cons block blocks ih =>
      obtain ⟨middle, hblock, hrest⟩ := pushAll_append_ok hpushAll
      obtain ⟨start, hstart⟩ := pushAll_moved hblock decoder.held.length
      obtain ⟨position, hposition⟩ := pushAll_moved hrest start
      have hlater := ih hposition
      simp only [decodeBlocks, newWindow, hstart]
      exact hlater

theorem leftover_eq_none_iff {held : Bytes} : leftover held = none ↔ held = [] := by
  unfold leftover
  split
  · simp
  · split <;> simp
  · simp_all

/-- Whatever the blocks, the text that is decoded begins the content, and it is the whole
content unless there is a fault. -/
theorem decodeBlocks_took {bytes : Bytes} {decoder : Decoder} (htook : Took bytes decoder)
    (blocks : List Bytes) :
    encode (decoder.decodeBlocks blocks).1 <+: bytes ++ blocks.flatten ∧
      ((decoder.decodeBlocks blocks).2 = none →
        encode (decoder.decodeBlocks blocks).1 = bytes ++ blocks.flatten) := by
  induction blocks generalizing bytes decoder with
  | nil =>
      rw [List.flatten_nil, List.append_nil]
      refine ⟨htook.encode_prefix, fun hfault => ?_⟩
      have hheld := leftover_eq_none_iff.mp hfault
      have hbytes := htook.bytes_eq
      rwa [hheld, List.append_nil] at hbytes
  | cons block blocks ih =>
      simp only [decodeBlocks]
      cases hblock : decoder.newWindow.pushAll block with
      | ok next =>
          have hnext := ih (htook.newWindow.pushAll hblock)
          rwa [List.append_assoc] at hnext
      | error fault =>
          refine ⟨htook.encode_prefix.trans (List.prefix_append _ _), ?_⟩
          intro hfault
          cases hfault

end Decoder

/-! The longest text that a content begins with. -/

structure Longest (content : Bytes) (text : Text) : Prop where
  begins : encode text <+: content
  longest : ∀ other, encode other <+: content → other <+: text

namespace Decoder

/-- A decoder goes on until a byte stops it or there are no more. -/
theorem exists_stop (decoder : Decoder) (content : Bytes) :
    ∃ front back next, content = front ++ back ∧ decoder.pushAll front = .ok next ∧
      ∀ byte ∈ back.head?, ∃ fault, next.push byte = .error fault := by
  induction content generalizing decoder with
  | nil => exact ⟨[], [], decoder, rfl, rfl, by simp⟩
  | cons byte content ih =>
      cases hpush : decoder.push byte with
      | error fault =>
          refine ⟨[], byte :: content, decoder, rfl, rfl, ?_⟩
          intro other hother
          cases hother
          exact ⟨fault, hpush⟩
      | ok middle =>
          obtain ⟨front, back, next, hsplit, hfront, hback⟩ := ih middle
          refine ⟨byte :: front, back, next, by rw [hsplit, List.cons_append], ?_, hback⟩
          rw [pushAll_cons hpush, hfront]

end Decoder

theorem exists_longest (content : Bytes) : ∃ text, Longest content text := by
  obtain ⟨front, back, next, rfl, hfront, hback⟩ := Decoder.exists_stop {} content
  refine ⟨next.text, ?_, ?_⟩
  · have htook := Decoder.took_nil.pushAll hfront
    exact htook.encode_prefix.trans (List.prefix_append front back)
  · intro other hother
    obtain ⟨decoder, hdecoder, -, htext⟩ := Decoder.pushAll_encode {} rfl other
    have hreached : decoder.text = other := htext
    rcases List.prefix_or_prefix_of_prefix hother (List.prefix_append front back) with
      ⟨rest, hrest⟩ | ⟨rest, hrest⟩
    · -- The decoder has passed the end of the other text before it stopped.
      rw [← hrest, Decoder.pushAll_append, hdecoder] at hfront
      rw [← hreached]
      exact Decoder.text_prefix hfront
    · -- It cannot have been stopped inside the other text.
      rw [← hrest, Decoder.pushAll_append, hfront] at hdecoder
      cases rest with
      | nil =>
          cases hdecoder
          simp [hreached]
      | cons byte rest =>
          rw [← hrest, List.prefix_append_right_inj] at hother
          obtain ⟨after, hafter⟩ := hother
          obtain ⟨fault, hfault⟩ := hback byte (by simp [← hafter])
          simp [Decoder.pushAll, hfault] at hdecoder

/-- A text comes back from its bytes, whatever the blocks they come in. -/
theorem decode_encode (size : Nat) (text : Text) :
    decode size (encode text) = (text, none) := by
  obtain ⟨next, hnext, hheld, htext⟩ := Decoder.pushAll_encode {} rfl text
  rw [← flatten_blocks size (encode text)] at hnext
  rw [decode, Decoder.decodeBlocks_of_pushAll hnext, hheld, htext]
  rfl

theorem encode_decode_prefix (size : Nat) (content : Bytes) :
    encode (decode size content).1 <+: content := by
  have hdecoded := Decoder.decodeBlocks_took Decoder.took_nil (blocks size content)
  rw [List.nil_append, flatten_blocks] at hdecoded
  exact hdecoded.1

theorem encode_decode_of_no_fault {size : Nat} {content : Bytes}
    (hfault : (decode size content).2 = none) :
    encode (decode size content).1 = content := by
  have hdecoded := Decoder.decodeBlocks_took Decoder.took_nil (blocks size content)
  rw [List.nil_append, flatten_blocks] at hdecoded
  exact hdecoded.2 hfault

end Weave.Utf8
