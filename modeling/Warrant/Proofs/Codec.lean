import Mathlib.Algebra.Group.Nat.Defs
import Warrant.Proofs.Loops
import Warrant.Proofs.Symbols
import Warrant.Proofs.TermOrder
import Warrant.Wire.Block

namespace Warrant

namespace Text.Utf8

theorem toList_loop (bytes : ByteArray) (i : Nat) (read : List UInt8) :
    ByteArray.toList.loop bytes i read = read.reverse ++ bytes.data.toList.drop i := by
  fun_induction ByteArray.toList.loop bytes i read with
  | case1 i read h ih =>
    have hi : i < bytes.data.toList.length := h
    have hget : bytes.get! i = bytes.data.toList[i] := getElem!_pos bytes.data i h
    rw [ih, List.reverse_cons, List.append_assoc, hget, List.drop_eq_getElem_cons hi]
    rfl
  | case2 i read h =>
    have hi : bytes.data.toList.length ≤ i := by simpa using h
    rw [List.drop_of_length_le hi, List.append_nil]

theorem encode_eq_toList (text : String) : encode text = text.toByteArray.data.toList := by
  rw [encode, ByteArray.toList, toList_loop]
  rfl

theorem decode_encode (text : String) : decode (encode text) = .ok text := by
  have hbytes : (⟨(encode text).toArray⟩ : ByteArray) = text.toByteArray := by
    rw [encode_eq_toList]
  have hread : String.fromUTF8? text.toByteArray = some text := by
    rw [String.fromUTF8?, dif_pos text.isValidUTF8]
    rfl
  rw [decode, hbytes, hread]

end Text.Utf8

namespace Wire

open Bytes

variable {α β γ : Type}

@[simp]
theorem length_encodeWord32 (n : UInt32) : (encodeWord32 n).length = 4 := length_littleEndian 4 _

@[simp]
theorem length_encodeWord64 (n : UInt64) : (encodeWord64 n).length = 8 := length_littleEndian 8 _

@[simp]
theorem length_encodeLength (n : Nat) : (encodeLength n).length = 8 := length_littleEndian 8 n

@[simp]
theorem length_encodeVariant (n : Nat) : (encodeVariant n).length = 4 := length_littleEndian 4 n

@[simp]
theorem length_encodeBytes (bytes : List UInt8) :
    (encodeBytes bytes).length = 8 + bytes.length := by
  simp [encodeBytes]

@[simp]
theorem length_encodeString (text : String) :
    (encodeString text).length = 8 + text.utf8ByteSize := by
  rw [encodeString, length_encodeBytes, Text.Utf8.encode_eq_toList]
  rfl

/-- Lengths below this one can be written. -/
abbrev maxLength : Nat := 2 ^ 64

/-- Whether a decoder reads a value from the bytes that stand for it, whatever follows them. There
    are such bytes; they need not be read where they are too many to be counted. -/
def Reads (decoder : Decoder α) (bytes : List UInt8) (x : α) : Prop :=
  bytes ≠ [] ∧ (bytes.length < maxLength → ∀ rest, decoder (bytes ++ rest) = .ok (x, rest))

namespace Reads

variable {decoder : Decoder α} {bytes bytes' : List UInt8} {x : α}

theorem bind {next : α → Decoder β} {y : β} (h : Reads decoder bytes x)
    (hnext : Reads (next x) bytes' y) : Reads (decoder >>= next) (bytes ++ bytes') y := by
  refine ⟨fun hnil => h.1 (List.append_eq_nil_iff.1 hnil).1, fun hlength rest => ?_⟩
  rw [List.length_append] at hlength
  have hfirst := h.2 (by omega) (bytes' ++ rest)
  change (decoder (bytes ++ bytes' ++ rest)).bind (fun read => next read.1 read.2) = _
  rw [List.append_assoc, hfirst]
  exact hnext.2 (by omega) rest

/-- What follows may decide on the value without reading on. -/
theorem andThen {next : α → Decoder β} {y : β} (h : Reads decoder bytes x)
    (hnext : ∀ rest, next x rest = .ok (y, rest)) : Reads (decoder >>= next) bytes y := by
  refine ⟨h.1, fun hlength rest => ?_⟩
  change (decoder (bytes ++ rest)).bind (fun read => next read.1 read.2) = _
  rw [h.2 hlength rest]
  exact hnext rest

theorem map {f : α → β} (h : Reads decoder bytes x) :
    Reads (do return f (← decoder)) bytes (f x) :=
  h.andThen fun _ => rfl

end Reads

theorem reads_number {width n : Nat} (hwidth : 0 < width) (h : n < Nat.pow 256 width) :
    Reads (number width) (littleEndian width n) n := by
  have hlength := length_littleEndian width n
  refine ⟨fun hnil => ?_, fun _ rest => ?_⟩
  · rw [hnil] at hlength
    exact absurd hlength (Nat.ne_of_lt hwidth)
  · have htake : (littleEndian width n ++ rest).take width = littleEndian width n :=
      List.take_left' hlength
    have hdrop : (littleEndian width n ++ rest).drop width = rest := List.drop_left' hlength
    rw [number, htake, hdrop, if_pos hlength, ofLittleEndian_littleEndian h]

theorem reads_word32 (n : UInt32) : Reads word32 (encodeWord32 n) n := by
  have hnumber : Reads (number 4) (encodeWord32 n) n.toNat := reads_number (by decide) n.toNat_lt
  have h := hnumber.map (f := UInt32.ofNat)
  rw [UInt32.ofNat_toNat] at h
  exact h

theorem reads_word64 (n : UInt64) : Reads word64 (encodeWord64 n) n := by
  have hnumber : Reads (number 8) (encodeWord64 n) n.toNat := reads_number (by decide) n.toNat_lt
  have h := hnumber.map (f := UInt64.ofNat)
  rw [UInt64.ofNat_toNat] at h
  exact h

theorem reads_length {n : Nat} (h : n < maxLength) : Reads (number 8) (encodeLength n) n :=
  reads_number (by decide) h

theorem reads_variant {n count : Nat} (h : n < count) (hcount : count ≤ 256) :
    Reads (variant count) (encodeVariant n) n := by
  have hbound : n < Nat.pow 256 4 := Nat.lt_trans (Nat.lt_of_lt_of_le h hcount) (by decide)
  refine (reads_number (by decide) hbound).andThen fun rest => ?_
  rw [if_pos h]
  rfl

theorem reads_byte (n : Fin 256) : Reads (number 1) [UInt8.ofNat n] n.1 := by
  have h : Reads (number 1) (littleEndian 1 n) n.1 := reads_number (by decide) n.2
  rw [littleEndian, littleEndian, Nat.mod_eq_of_lt n.2] at h
  exact h

theorem reads_bool (b : Bool) : Reads bool (encodeBool b) b := by
  cases b with
  | false => exact (reads_byte 0).andThen fun _ => rfl
  | true => exact (reads_byte 1).andThen fun _ => rfl

/-- A count can be written where what it counts can. -/
theorem reads_sized {count : Nat} {payload : List UInt8} {next : Nat → Decoder α} {x : α}
    (hcount : count ≤ payload.length)
    (hnext : payload.length < maxLength → ∀ rest, next count (payload ++ rest) = .ok (x, rest)) :
    Reads (number 8 >>= next) (encodeLength count ++ payload) x := by
  have hwidth := length_encodeLength count
  refine ⟨fun hnil => ?_, fun hlength rest => ?_⟩
  · rw [(List.append_eq_nil_iff.1 hnil).1] at hwidth
    cases hwidth
  · rw [List.length_append] at hlength
    have hpayload : payload.length < maxLength := by omega
    have hread := (reads_length (Nat.lt_of_le_of_lt hcount hpayload)).2 (by omega) (payload ++ rest)
    change (number 8 (encodeLength count ++ payload ++ rest)).bind
      (fun read => next read.1 read.2) = _
    rw [List.append_assoc, hread]
    exact hnext hpayload rest

theorem reads_bytes (data : List UInt8) : Reads bytes (encodeBytes data) data := by
  refine reads_sized (Nat.le_refl _) fun _ rest => ?_
  rw [List.take_left' rfl, List.drop_left' rfl, if_pos rfl]

theorem reads_string (text : String) : Reads string (encodeString text) text := by
  refine reads_sized (Nat.le_refl _) fun _ rest => ?_
  rw [List.take_left' rfl, List.drop_left' rfl, if_pos rfl, Text.Utf8.decode_encode]

theorem reads_option {item : Decoder α} {encode : α → List UInt8} {value : Option α}
    (h : ∀ x, value = some x → Reads item (encode x) x) :
    Reads (option item) (encodeOption encode value) value := by
  cases value with
  | none => exact (reads_byte 0).andThen fun _ => rfl
  | some x => exact (reads_byte 1).bind (h x rfl).map

theorem length_le_length_flatMap {encode : α → List UInt8} {xs : List α} {x : α} (h : x ∈ xs) :
    (encode x).length ≤ (xs.flatMap encode).length := by
  rw [List.flatMap_def]
  exact (List.sublist_flatten_of_mem (List.mem_map_of_mem h)).length_le

section

variable {item : Decoder β} {encode : α → List UInt8} {f : α → β} {xs : List α}
  (h : ∀ x ∈ xs, Reads item (encode x) (f x))
include h

theorem items_flatMap (hlength : (xs.flatMap encode).length < maxLength) (rest : List UInt8) :
    items item xs.length (xs.flatMap encode ++ rest) = .ok (xs.map f, rest) := by
  induction xs with
  | nil => rfl
  | cons x xs ih =>
    obtain ⟨hx, hxs⟩ := List.forall_mem_cons.1 h
    rw [List.flatMap_cons, List.length_append] at hlength
    rw [List.flatMap_cons, List.append_assoc]
    change (item (encode x ++ (xs.flatMap encode ++ rest))).bind
      (fun first => (items item xs.length first.2).bind
        fun others => Except.ok (first.1 :: others.1, others.2)) = _
    rw [hx.2 (by omega)]
    change (items item xs.length (xs.flatMap encode ++ rest)).bind _ = _
    rw [ih hxs (by omega)]
    rfl

/-- A list is read where its items are, each as something else perhaps. Each takes a byte at least,
    so the bytes can only be counted where the items can. -/
theorem reads_list_map : Reads (list item) (encodeList encode xs) (xs.map f) :=
  reads_sized (length_le_flatMap fun x hx => (h x hx).1) (items_flatMap h)

end

theorem reads_list {item : Decoder α} {encode : α → List UInt8} {xs : List α}
    (h : ∀ x ∈ xs, Reads item (encode x) x) : Reads (list item) (encodeList encode xs) xs := by
  have hread := reads_list_map (f := id) h
  rw [List.map_id] at hread
  exact hread

end Wire

end Warrant
