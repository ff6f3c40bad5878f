import Weave.Text.Utf8

namespace Weave.Utf8

/-! The bytes of one character, in numbers. -/

theorem isSecond_iff {lead second : UInt8} :
    isSecond lead second = true ↔
      0x80 ≤ second.toNat ∧ second.toNat ≤ 0xBF ∧
        (lead.toNat = 0xE0 → 0xA0 ≤ second.toNat) ∧
        (lead.toNat = 0xED → second.toNat ≤ 0x9F) ∧
        (lead.toNat = 0xF0 → 0x90 ≤ second.toNat) ∧
        (lead.toNat = 0xF4 → second.toNat ≤ 0x8F) := by
  simp only [isSecond, Bool.and_eq_true, decide_eq_true_eq]
  generalize lead.toNat = code
  unfold secondRange
  split <;> grind

theorem isContinuation_iff {byte : UInt8} :
    isContinuation byte = true ↔ 0x80 ≤ byte.toNat ∧ byte.toNat ≤ 0xBF := by
  simp [isContinuation]

theorem isSurrogate_iff {lead second : UInt8} :
    isSurrogate lead second = true ↔
      lead.toNat = 0xED ∧ 0xA0 ≤ second.toNat ∧ second.toNat ≤ 0xBF := by
  simp [isSurrogate, and_assoc]

theorem isLead_iff {byte : UInt8} :
    isLead byte = true ↔ 0xC2 ≤ byte.toNat ∧ byte.toNat ≤ 0xF4 := by
  simp [isLead]

/-- How a code is spelled, by the number of its bytes. -/
inductive Spells (code : Nat) : Bytes → Prop
  | one {lead : UInt8} (hcode : code < 0x80) (hlead : lead.toNat = code) :
      Spells code [lead]
  | two {lead second : UInt8} (hcode : 0x80 ≤ code ∧ code < 0x800)
      (hlead : lead.toNat = 0xC0 + code / 64)
      (hsecond : second.toNat = 0x80 + code % 64) :
      Spells code [lead, second]
  | three {lead second third : UInt8} (hcode : 0x800 ≤ code ∧ code < 0x10000)
      (hlead : lead.toNat = 0xE0 + code / 4096)
      (hsecond : second.toNat = 0x80 + code / 64 % 64)
      (hthird : third.toNat = 0x80 + code % 64) :
      Spells code [lead, second, third]
  | four {lead second third fourth : UInt8} (hcode : 0x10000 ≤ code ∧ code < 0x110000)
      (hlead : lead.toNat = 0xF0 + code / 262144)
      (hsecond : second.toNat = 0x80 + code / 4096 % 64)
      (hthird : third.toNat = 0x80 + code / 64 % 64)
      (hfourth : fourth.toNat = 0x80 + code % 64) :
      Spells code [lead, second, third, fourth]

theorem toNat_ofNat_of_lt {number : Nat} (hnumber : number < 256) :
    (UInt8.ofNat number).toNat = number := by
  rw [UInt8.toNat_ofNat']
  exact Nat.mod_eq_of_lt hnumber

theorem spells_encodeChar (character : Char) :
    Spells character.toNat (encodeChar character) := by
  have hvalid : character.toNat.isValidChar := character.valid
  simp only [encodeChar]
  split
  · exact .one (by assumption) (toNat_ofNat_of_lt (by omega))
  · split
    · exact .two (by omega) (toNat_ofNat_of_lt (by omega)) (toNat_ofNat_of_lt (by omega))
    · split
      · exact .three (by omega) (toNat_ofNat_of_lt (by omega))
          (toNat_ofNat_of_lt (by omega)) (toNat_ofNat_of_lt (by omega))
      · exact .four (by omega) (toNat_ofNat_of_lt (by omega))
          (toNat_ofNat_of_lt (by omega)) (toNat_ofNat_of_lt (by omega))
          (toNat_ofNat_of_lt (by omega))

theorem encodeChar_ne_nil (character : Char) : encodeChar character ≠ [] := by
  intro hnil
  have hspells := spells_encodeChar character
  rw [hnil] at hspells
  cases hspells

/-- A code has one spelling. -/
theorem Spells.unique {code : Nat} {left right : Bytes} (hleft : Spells code left)
    (hright : Spells code right) : left = right := by
  cases hleft <;> cases hright <;> first
    | omega
    | simp only [List.cons.injEq, ← UInt8.toNat_inj, and_true]
      omega

theorem character_ofNat {character : Char} {code : Nat} (hcode : code = character.toNat) :
    Reading.character (Char.ofNat code) = .character character := by
  rw [hcode, Char.ofNat_toNat]

theorem read_lead {lead : UInt8} (hlead : isLead lead = true) :
    read [lead] = .unfinished := by
  have hlarge : ¬ lead.toNat < 0x80 := by
    have := isLead_iff.mp hlead
    omega
  simp only [read, if_neg hlarge, hlead, if_true]

theorem read_second {lead second : UInt8} (hsecond : isSecond lead second = true)
    (hlead : 0xE0 ≤ lead.toNat) : read [lead, second] = .unfinished := by
  have hlarge : ¬ lead.toNat < 0xE0 := by omega
  simp only [read, hsecond, if_true, if_neg hlarge]

theorem not_isSurrogate {lead second : UInt8} (hsecond : isSecond lead second = true) :
    isSurrogate lead second = false := by
  rw [Bool.eq_false_iff, Ne, isSurrogate_iff]
  have := isSecond_iff.mp hsecond
  omega

theorem read_third {lead second third : UInt8} (hsecond : isSecond lead second = true)
    (hthird : isContinuation third = true) (hlead : 0xF0 ≤ lead.toNat) :
    read [lead, second, third] = .unfinished := by
  have hlarge : ¬ lead.toNat < 0xF0 := by omega
  simp only [read, not_isSurrogate hsecond, hthird, if_true, if_neg hlarge,
    Bool.false_eq_true, if_false]

section Spelled

variable {character : Char} {bytes : Bytes} (hspells : Spells character.toNat bytes)
include hspells

theorem Spells.read_eq : read bytes = .character character := by
  have hvalid : character.toNat.isValidChar := character.valid
  cases hspells with
  | one hcode hlead =>
      simp only [read, hlead, hcode, if_true]
      exact character_ofNat rfl
  | @two lead second hcode hlead hsecond =>
      have hinside : isSecond lead second = true := isSecond_iff.mpr (by omega)
      have hsmall : lead.toNat < 0xE0 := by omega
      simp only [read, hinside, hsmall, if_true]
      exact character_ofNat (by omega)
  | @three lead second third hcode hlead hsecond hthird =>
      have hinside : isSecond lead second = true := isSecond_iff.mpr (by omega)
      have hlast : isContinuation third = true := isContinuation_iff.mpr (by omega)
      have hsmall : lead.toNat < 0xF0 := by omega
      simp only [read, not_isSurrogate hinside, hlast, hsmall, if_true,
        Bool.false_eq_true, if_false]
      exact character_ofNat (by omega)
  | @four lead second third fourth hcode hlead hsecond hthird hfourth =>
      have hlast : isContinuation fourth = true := isContinuation_iff.mpr (by omega)
      simp only [read, hlast, if_true]
      exact character_ofNat (by omega)

/-- A spelling that has not come to its end reads as unfinished. -/
theorem Spells.read_front {front : Bytes} (hinitial : front <+: bytes)
    (hfront : front ≠ []) (hpart : front ≠ bytes) : read front = .unfinished := by
  have hvalid : character.toNat.isValidChar := character.valid
  cases hspells with
  | @one lead hcode hlead =>
      have hnone : front = [] ∨ front = [lead] := by
        simpa [List.prefix_cons_iff] using hinitial
      exact absurd hnone (by simp [hfront, hpart])
  | @two lead second hcode hlead hsecond =>
      have hfirst : isLead lead = true := isLead_iff.mpr (by omega)
      have hparts : front = [lead] := by grind [List.prefix_cons_iff]
      rw [hparts, read_lead hfirst]
  | @three lead second third hcode hlead hsecond hthird =>
      have hfirst : isLead lead = true := isLead_iff.mpr (by omega)
      have hinside : isSecond lead second = true := isSecond_iff.mpr (by omega)
      have hparts : front = [lead] ∨ front = [lead, second] := by
        grind [List.prefix_cons_iff]
      rcases hparts with rfl | rfl
      · exact read_lead hfirst
      · exact read_second hinside (by omega)
  | @four lead second third fourth hcode hlead hsecond hthird hfourth =>
      have hfirst : isLead lead = true := isLead_iff.mpr (by omega)
      have hinside : isSecond lead second = true := isSecond_iff.mpr (by omega)
      have hlater : isContinuation third = true := isContinuation_iff.mpr (by omega)
      have hparts : front = [lead] ∨ front = [lead, second] ∨
          front = [lead, second, third] := by
        grind [List.prefix_cons_iff]
      rcases hparts with rfl | rfl | rfl
      · exact read_lead hfirst
      · exact read_second hinside (by omega)
      · exact read_third hinside hlater (by omega)

end Spelled

/-! Bytes that may yet become a character, and the characters that come of them. -/

def Unfinished (held : Bytes) : Prop :=
  ∀ front, front <+: held → front ≠ [] → read front = .unfinished

theorem unfinished_nil : Unfinished [] := by
  intro front hinitial hfront
  exact absurd (List.prefix_nil.mp hinitial) hfront

theorem Unfinished.concat {held : Bytes} (hheld : Unfinished held) {byte : UInt8}
    (hread : read (held ++ [byte]) = .unfinished) : Unfinished (held ++ [byte]) := by
  intro front hinitial hfront
  rcases List.prefix_concat_iff.mp hinitial with rfl | hshorter
  · exact hread
  · exact hheld front hshorter hfront

theorem isLead_of_read {lead : UInt8} (hread : read [lead] = .unfinished) :
    isLead lead = true := by
  simp only [read] at hread
  split at hread
  · cases hread
  · split at hread
    · assumption
    · cases hread

theorem second_of_read {lead second : UInt8} (hread : read [lead, second] = .unfinished) :
    (isSecond lead second = true ∧ 0xE0 ≤ lead.toNat) ∨ isSurrogate lead second = true := by
  simp only [read] at hread
  split at hread
  · next hsecond =>
      split at hread
      · cases hread
      · next hlarge => exact .inl ⟨hsecond, Nat.le_of_not_lt hlarge⟩
  · split at hread
    · next hsurrogate => exact .inr hsurrogate
    · cases hread

theorem third_of_read {lead second third : UInt8}
    (hread : read [lead, second, third] = .unfinished) :
    isSurrogate lead second = false ∧ isContinuation third = true ∧
      0xF0 ≤ lead.toNat := by
  simp only [read] at hread
  split at hread
  · cases hread
  · next hsurrogate =>
      split at hread
      · next hthird =>
          split at hread
          · cases hread
          · next hlarge =>
              exact ⟨Bool.eq_false_iff.mpr hsurrogate, hthird, Nat.le_of_not_lt hlarge⟩
      · cases hread

theorem toNat_ofNat_of_valid {code : Nat} (hvalid : code.isValidChar) :
    (Char.ofNat code).toNat = code := by
  rw [Char.ofNat, dif_pos hvalid]
  rfl

/-- A character is read only from its own spelling, once the bytes before the last one
were unfinished. -/
theorem Unfinished.spells {held : Bytes} (hheld : Unfinished held) {byte : UInt8}
    {character : Char} (hread : read (held ++ [byte]) = .character character) :
    Spells character.toNat (held ++ [byte]) := by
  match held, hheld, hread with
  | [], _, hread =>
      simp only [List.nil_append, read] at hread ⊢
      split at hread
      · next hsmall =>
          cases hread
          have hcode : (Char.ofNat byte.toNat).toNat = byte.toNat :=
            toNat_ofNat_of_valid (.inl (by omega))
          exact .one (by omega) hcode.symm
      · split at hread <;> cases hread
  | [lead], hheld, hread =>
      have hlead := isLead_iff.mp (isLead_of_read (hheld [lead] (by simp) (by simp)))
      simp only [List.cons_append, List.nil_append, read] at hread ⊢
      split at hread
      · next hsecond =>
          have hsecond := isSecond_iff.mp hsecond
          split at hread
          · next hsmall =>
              cases hread
              rw [toNat_ofNat_of_valid (.inl (by omega))]
              exact .two (by omega) (by omega) (by omega)
          · cases hread
      · split at hread <;> cases hread
  | [lead, second], hheld, hread =>
      have hlead := isLead_iff.mp (isLead_of_read (hheld [lead] (by simp) (by simp)))
      have hsecond := second_of_read (hheld [lead, second] (by simp) (by simp))
      simp only [List.cons_append, List.nil_append, read] at hread ⊢
      split at hread
      · cases hread
      · next hsurrogate =>
          obtain ⟨hinside, hlarge⟩ := hsecond.resolve_right hsurrogate
          have hinside := isSecond_iff.mp hinside
          split at hread
          · next hthird =>
              have hthird := isContinuation_iff.mp hthird
              split at hread
              · next hsmall =>
                  cases hread
                  rw [toNat_ofNat_of_valid (by simp only [Nat.isValidChar]; omega)]
                  exact .three (by omega) (by omega) (by omega) (by omega)
              · cases hread
          · cases hread
  | [lead, second, third], hheld, hread =>
      have hlead := isLead_iff.mp (isLead_of_read (hheld [lead] (by simp) (by simp)))
      have hsecond := second_of_read (hheld [lead, second] (by simp) (by simp))
      obtain ⟨hsurrogate, hthird, hlarge⟩ :=
        third_of_read (hheld [lead, second, third] (by simp) (by simp))
      obtain ⟨hinside, -⟩ := hsecond.resolve_right (by simp [hsurrogate])
      have hinside := isSecond_iff.mp hinside
      have hthird := isContinuation_iff.mp hthird
      simp only [List.cons_append, List.nil_append, read] at hread ⊢
      split at hread
      · next hfourth =>
          have hfourth := isContinuation_iff.mp hfourth
          cases hread
          rw [toNat_ofNat_of_valid (by simp only [Nat.isValidChar]; omega)]
          exact .four (by omega) (by omega) (by omega) (by omega) (by omega)
      · cases hread
  | _ :: _ :: _ :: _ :: _, _, hread => simp [read] at hread

theorem Unfinished.encodeChar_eq {held : Bytes} (hheld : Unfinished held) {byte : UInt8}
    {character : Char} (hread : read (held ++ [byte]) = .character character) :
    encodeChar character = held ++ [byte] :=
  (spells_encodeChar character).unique (hheld.spells hread)

end Weave.Utf8
