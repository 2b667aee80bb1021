import Mathlib.Data.List.Forall2
import Warrant.Proofs.Codec

namespace Warrant

theorem Bytes.littleEndian_ofLittleEndian (bytes : List UInt8) :
    littleEndian bytes.length (ofLittleEndian bytes) = bytes := by
  induction bytes with
  | nil => rfl
  | cons b bytes ih =>
    have hbound := b.toNat_lt
    have hremainder : (b.toNat + 256 * ofLittleEndian bytes) % 256 = b.toNat := by omega
    have hquotient : (b.toNat + 256 * ofLittleEndian bytes) / 256 = ofLittleEndian bytes := by omega
    rw [List.length_cons, ofLittleEndian, littleEndian, hremainder, hquotient, ih,
      UInt8.ofNat_toNat]

theorem Bytes.ofLittleEndian_lt (bytes : List UInt8) :
    ofLittleEndian bytes < Nat.pow 256 bytes.length := by
  induction bytes with
  | nil => exact Nat.one_pos
  | cons b bytes ih =>
    have hbound := b.toNat_lt
    have hpow : Nat.pow 256 (bytes.length + 1) = Nat.pow 256 bytes.length * 256 := rfl
    rw [List.length_cons, ofLittleEndian, hpow]
    omega

theorem Text.Utf8.encode_of_decode {bytes : List UInt8} {text : String}
    (h : decode bytes = .ok text) : encode text = bytes := by
  rw [decode] at h
  split at h
  case h_1 _ hread =>
    cases h
    rw [String.fromUTF8?] at hread
    split at hread
    case isTrue hvalid =>
      cases hread
      rw [encode_eq_toList]
      rfl
    case isFalse => cases hread
  case h_2 => cases h

namespace Wire

open Bytes

variable {α β : Type}

/-- Whether a decoder reads values only from bytes that stand at the beginning and spell them. -/
def Takes (decoder : Decoder α) (spells : List UInt8 → α → Prop) : Prop :=
  ∀ bytes x rest, decoder bytes = .ok (x, rest) →
    ∃ taken, bytes = taken ++ rest ∧ spells taken x

/-- Whether a decoder reads values only from the bytes that stand for them. -/
def Canonical (decoder : Decoder α) (encode : α → List UInt8) : Prop :=
  Takes decoder fun taken x => taken = encode x

namespace Takes

variable {decoder : Decoder α} {spells spells' : List UInt8 → α → Prop}

theorem imp (h : Takes decoder spells) (himp : ∀ taken x, spells taken x → spells' taken x) :
    Takes decoder spells' := by
  intro bytes x rest hread
  obtain ⟨taken, hbytes, hspells⟩ := h bytes x rest hread
  exact ⟨taken, hbytes, himp taken x hspells⟩

theorem bind {next : α → Decoder β} {spellsNext : List UInt8 → β → Prop}
    (h : Takes decoder spells)
    (hnext : ∀ taken x, spells taken x →
      Takes (next x) fun more y => spellsNext (taken ++ more) y) :
    Takes (decoder >>= next) spellsNext := by
  intro bytes y rest hread
  change (decoder bytes).bind (fun read => next read.1 read.2) = _ at hread
  cases hfirst : decoder bytes with
  | error fault =>
    rw [hfirst] at hread
    cases hread
  | ok read =>
    obtain ⟨x, middle⟩ := read
    rw [hfirst] at hread
    obtain ⟨taken, rfl, hspells⟩ := h bytes x middle hfirst
    obtain ⟨more, rfl, hmore⟩ := hnext taken x hspells middle y rest hread
    exact ⟨taken ++ more, (List.append_assoc _ _ _).symm, hmore⟩

end Takes

theorem takes_pure {x : α} {spells : List UInt8 → α → Prop} (h : spells [] x) :
    Takes (pure x : Decoder α) spells := by
  rintro bytes _ rest ⟨⟩
  exact ⟨[], rfl, h⟩

theorem takes_throw (fault : Fault) (spells : List UInt8 → α → Prop) :
    Takes (throw fault : Decoder α) spells := by
  intro bytes x rest hread
  cases hread

/-- What is made of a value is spelled by the bytes of the value. -/
theorem Takes.map {decoder : Decoder α} {spells : List UInt8 → α → Prop}
    {spellsMade : List UInt8 → β → Prop} {f : α → β} (h : Takes decoder spells)
    (hf : ∀ taken x, spells taken x → spellsMade taken (f x)) :
    Takes (do return f (← decoder)) spellsMade :=
  h.bind fun taken x hspells => takes_pure (by rw [List.append_nil]; exact hf taken x hspells)

theorem takes_number (width : Nat) :
    Takes (number width) fun taken n => taken = littleEndian width n ∧ n < Nat.pow 256 width := by
  intro bytes n rest hread
  rw [number] at hread
  split at hread
  case isTrue hlength =>
    cases hread
    have hspells := littleEndian_ofLittleEndian (bytes.take width)
    have hbound := ofLittleEndian_lt (bytes.take width)
    rw [hlength] at hspells hbound
    exact ⟨_, (List.take_append_drop width bytes).symm, hspells.symm, hbound⟩
  case isFalse => cases hread

theorem canonical_word32 : Canonical word32 encodeWord32 := by
  refine (takes_number 4).map fun taken n h => ?_
  rw [h.1, encodeWord32, UInt32.toNat_ofNat_of_lt' h.2]

theorem canonical_word64 : Canonical word64 encodeWord64 := by
  refine (takes_number 8).map fun taken n h => ?_
  rw [h.1, encodeWord64, UInt64.toNat_ofNat_of_lt' h.2]

theorem takes_variant (count : Nat) :
    Takes (variant count) fun taken n => taken = encodeVariant n ∧ n < count := by
  refine (takes_number 4).bind fun taken n h => ?_
  split
  case isTrue hn => exact takes_pure ⟨(List.append_nil _).trans h.1, hn⟩
  case isFalse => exact takes_throw _ _

/-- A byte is read as its number. -/
theorem takes_byte : Takes (number 1) fun taken n => taken = [UInt8.ofNat n] := by
  refine (takes_number 1).imp fun taken n h => ?_
  rw [h.1, littleEndian, littleEndian, Nat.mod_eq_of_lt h.2]

theorem canonical_bool : Canonical bool encodeBool := by
  refine takes_byte.bind fun taken n h => ?_
  subst h
  match n with
  | 0 => exact takes_pure rfl
  | 1 => exact takes_pure rfl
  | _ + 2 => exact takes_throw _ _

/-- What is made of as many bytes as a number says is spelled by them after their number. -/
theorem takes_sized {next : Nat → Decoder α} {made : List UInt8 → α → Prop}
    (hnext : ∀ n bytes x rest, next n bytes = .ok (x, rest) →
      (bytes.take n).length = n ∧ rest = bytes.drop n ∧ made (bytes.take n) x) :
    Takes (number 8 >>= next) fun taken x => ∃ data, taken = encodeBytes data ∧ made data x := by
  refine (takes_number 8).bind fun taken n hn bytes x rest hread => ?_
  obtain ⟨hlength, rfl, hmade⟩ := hnext n bytes x rest hread
  refine ⟨bytes.take n, (List.take_append_drop n bytes).symm, bytes.take n, ?_, hmade⟩
  rw [encodeBytes, hlength, hn.1, encodeLength]

theorem canonical_bytes : Canonical bytes encodeBytes := by
  have hsized : Takes bytes fun taken x => ∃ data, taken = encodeBytes data ∧ data = x := by
    refine takes_sized fun n bytes x rest hread => ?_
    split at hread
    case isTrue hlength =>
      cases hread
      exact ⟨hlength, rfl, rfl⟩
    case isFalse => cases hread
  refine hsized.imp ?_
  rintro taken _ ⟨data, htaken, rfl⟩
  exact htaken

theorem canonical_string : Canonical string encodeString := by
  have hsized : Takes string fun taken text =>
      ∃ data, taken = encodeBytes data ∧ Text.Utf8.decode data = .ok text := by
    refine takes_sized fun n bytes text rest hread => ?_
    split at hread
    case isTrue hlength =>
      split at hread
      case h_1 _ hdecode =>
        cases hread
        exact ⟨hlength, rfl, hdecode⟩
      case h_2 => cases hread
    case isFalse => cases hread
  refine hsized.imp ?_
  rintro taken text ⟨data, rfl, hdecode⟩
  rw [encodeString, Text.Utf8.encode_of_decode hdecode]

theorem canonical_option {item : Decoder α} {encode : α → List UInt8} (h : Canonical item encode) :
    Canonical (option item) (encodeOption encode) := by
  refine takes_byte.bind fun taken n htaken => ?_
  subst htaken
  match n with
  | 0 => exact takes_pure rfl
  | 1 => exact h.map fun more x hmore => congrArg (1 :: ·) hmore
  | _ + 2 => exact takes_throw _ _

section

variable {item : Decoder α} {spells : List UInt8 → α → Prop}

theorem takes_items (h : Takes item spells) (n : Nat) :
    Takes (items item n) fun taken xs =>
      xs.length = n ∧ ∃ parts : List (List UInt8), taken = parts.flatten ∧
        List.Forall₂ spells parts xs := by
  induction n with
  | zero => exact takes_pure ⟨rfl, [], rfl, .nil⟩
  | succ n ih =>
    refine h.bind fun taken x hx => ih.map ?_
    rintro more xs ⟨rfl, parts, rfl, hparts⟩
    exact ⟨rfl, taken :: parts, rfl, .cons hx hparts⟩

/-- A list is read from the number of its items and from their bytes. -/
theorem takes_list (h : Takes item spells) :
    Takes (list item) fun taken xs => ∃ parts : List (List UInt8),
      taken = encodeLength xs.length ++ parts.flatten ∧ List.Forall₂ spells parts xs := by
  refine (takes_number 8).bind fun taken n hn => (takes_items h n).imp ?_
  rintro more xs ⟨rfl, parts, rfl, hparts⟩
  exact ⟨parts, by rw [hn.1]; rfl, hparts⟩

theorem canonical_list {encode : α → List UInt8} (h : Canonical item encode) :
    Canonical (list item) (encodeList encode) := by
  refine (takes_list h).imp ?_
  rintro taken xs ⟨parts, rfl, hparts⟩
  have hflatten : parts.flatten = xs.flatMap encode := by
    clear h
    induction hparts with
    | nil => rfl
    | cons hpart _ ih => rw [List.flatten_cons, List.flatMap_cons, hpart, ih]
  rw [encodeList, hflatten]

end

end Wire

end Warrant
