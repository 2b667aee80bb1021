import Warrant.Proofs.Codec
import Warrant.Token

namespace Warrant

namespace Unicode

/-- Whether a code point lies in one of some ranges. -/
def InSome (ranges : List (Nat × Nat)) (c : Nat) : Prop := ∃ r ∈ ranges, r.1 ≤ c ∧ c ≤ r.2

instance (ranges : List (Nat × Nat)) (c : Nat) : Decidable (InSome ranges c) :=
  inferInstanceAs (Decidable (∃ r ∈ ranges, r.1 ≤ c ∧ c ≤ r.2))

namespace CodePoints

theorem inSome_of_contains {points : CodePoints} {c : Nat} (h : points.contains c = true) :
    InSome points c := by
  induction points with
  | nil => cases h
  | cons r rest ih =>
    rw [contains] at h
    split at h
    case isTrue => cases h
    case isFalse hlo =>
      split at h
      case isTrue hhi => exact ⟨r, List.mem_cons_self, Nat.not_lt.1 hlo, hhi⟩
      case isFalse =>
        obtain ⟨q, hq, hin⟩ := ih h
        exact ⟨q, List.mem_cons_of_mem _ hq, hin⟩

theorem inSome_cons {r : Nat × Nat} {rest : List (Nat × Nat)} {c : Nat} :
    InSome (r :: rest) c ↔ (r.1 ≤ c ∧ c ≤ r.2) ∨ InSome rest c := by
  simp [InSome]

/-- Joining ranges adds no code points. -/
theorem inSome_of_inSome_coalesceFrom {lo hi c : Nat} {rest : List (Nat × Nat)}
    (h : InSome (coalesceFrom lo hi rest) c) : InSome ((lo, hi) :: rest) c := by
  induction rest generalizing lo hi with
  | nil => exact h
  | cons r rest ih =>
    obtain ⟨lo', hi'⟩ := r
    rw [coalesceFrom] at h
    rw [inSome_cons, inSome_cons]
    split at h
    case isTrue htouch =>
      rcases inSome_cons.1 (ih h) with ⟨hlo, hhi⟩ | h
      · dsimp only at hlo hhi ⊢
        omega
      · exact .inr (.inr h)
    case isFalse =>
      rcases inSome_cons.1 h with h | h
      · exact .inl h
      · exact .inr (inSome_cons.1 (ih h))

theorem inSome_of_contains_union {sets : List CodePoints} {c : Nat}
    (h : (union sets).contains c = true) : InSome sets.flatten c := by
  have hin := inSome_of_contains h
  rw [union, ofRanges] at hin
  have hsorted : InSome ((sets.flatten.filter fun r => r.1 ≤ r.2).mergeSort
      fun r s => r.1 ≤ s.1) c := by
    revert hin
    cases (sets.flatten.filter fun r => r.1 ≤ r.2).mergeSort fun r s => r.1 ≤ s.1 with
    | nil => exact id
    | cons r rest => exact inSome_of_inSome_coalesceFrom
  obtain ⟨r, hr, hin⟩ := hsorted
  rw [List.mem_mergeSort] at hr
  exact ⟨r, (List.mem_filter.1 hr).1, hin⟩

end CodePoints

/-- The code points of blanks. -/
def blankRanges : List (Nat × Nat) :=
  [(9, 13), (32, 32), (133, 133), (160, 160), (5760, 5760), (8192, 8202), (8232, 8233),
    (8239, 8239), (8287, 8287), (12288, 12288)]

theorem property?_whitespace : property? "whitespace" = some blankRanges := by
  decide +kernel

theorem inSome_of_isBlank {c : Char} (h : isBlank c = true) : InSome blankRanges c.toNat := by
  have hin := CodePoints.inSome_of_contains_union h
  simp [property?_whitespace] at hin
  exact hin

end Unicode

namespace Text

theorem trim_eq_self {text : List Char} (h : ∀ c ∈ text, Unicode.isBlank c = false) :
    trim text = text := by
  have hkeep {cs : List Char} (hcs : ∀ c ∈ cs, Unicode.isBlank c = false) :
      cs.dropWhile Unicode.isBlank = cs := by
    cases cs with
    | nil => rfl
    | cons c cs => rw [List.dropWhile_cons, hcs c List.mem_cons_self]; rfl
  rw [trim, hkeep h, hkeep fun c hc => h c (List.mem_reverse.1 hc), List.reverse_reverse]

namespace Base64

/-- A character as a byte. -/
def code (c : Char) : UInt8 := c.val.toUInt8

/-- A symbol is written as one byte, which has its value and is no padding, and it is no blank. -/
theorem symbol_spec :
    ∀ n < 64, value? (code (symbol n)) = some n ∧ code (symbol n) ≠ pad ∧
      ¬Unicode.InSome Unicode.blankRanges (symbol n).toNat ∧ (symbol n).utf8Size = 1 := by
  decide +kernel

theorem mem_encodeChars {c : Char} {bytes : List UInt8} (h : c ∈ encodeChars bytes) :
    c = '=' ∨ ∃ n < 64, c = symbol n := by
  fun_induction encodeChars bytes with
  | case1 => cases h
  | case2 a =>
    have ha := a.toNat_lt
    simp only [List.mem_cons, List.not_mem_nil, or_false] at h
    rcases h with rfl | rfl | rfl | rfl
    · exact .inr ⟨_, by omega, rfl⟩
    · exact .inr ⟨_, by omega, rfl⟩
    · exact .inl rfl
    · exact .inl rfl
  | case3 a b =>
    have ha := a.toNat_lt
    have hb := b.toNat_lt
    simp only [List.mem_cons, List.not_mem_nil, or_false] at h
    rcases h with rfl | rfl | rfl | rfl
    · exact .inr ⟨_, by omega, rfl⟩
    · exact .inr ⟨_, by omega, rfl⟩
    · exact .inr ⟨_, by omega, rfl⟩
    · exact .inl rfl
  | case4 a b c' rest ih =>
    have ha := a.toNat_lt
    have hb := b.toNat_lt
    have hc := c'.toNat_lt
    simp only [List.mem_cons] at h
    rcases h with rfl | rfl | rfl | rfl | h
    · exact .inr ⟨_, by omega, rfl⟩
    · exact .inr ⟨_, by omega, rfl⟩
    · exact .inr ⟨_, by omega, rfl⟩
    · exact .inr ⟨_, by omega, rfl⟩
    · exact ih h

theorem plain_of_mem_encodeChars {c : Char} {bytes : List UInt8} (h : c ∈ encodeChars bytes) :
    Unicode.isBlank c = false ∧ c.utf8Size = 1 := by
  have hplain : ¬Unicode.InSome Unicode.blankRanges c.toNat ∧ c.utf8Size = 1 := by
    rcases mem_encodeChars h with rfl | ⟨n, hn, rfl⟩
    · decide
    · exact (symbol_spec n hn).2.2
  exact ⟨Bool.eq_false_iff.2 fun hblank => hplain.1 (Unicode.inSome_of_isBlank hblank), hplain.2⟩

/-- Where each character takes one byte, a text is encoded character by character. -/
theorem encode_ofList {cs : List Char} (h : ∀ c ∈ cs, c.utf8Size = 1) :
    Utf8.encode (String.ofList cs) = cs.map code := by
  rw [Utf8.encode_eq_toList, String.toByteArray_ofList, List.utf8Encode,
    List.toList_data_toByteArray]
  induction cs with
  | nil => rfl
  | cons c cs ih =>
    obtain ⟨hc, hcs⟩ := List.forall_mem_cons.1 h
    rw [List.flatMap_cons, String.utf8EncodeChar_eq_singleton hc, ih hcs]
    rfl

theorem length_encodeChars (bytes : List UInt8) : (encodeChars bytes).length % 4 = 0 := by
  fun_induction encodeChars bytes with
  | case1 => rfl
  | case2 a => simp
  | case3 a b => simp
  | case4 a b c rest ih =>
    simp only [List.length_cons]
    omega

theorem lastGroup_symbol {start index n pads : Nat} {values : List Nat} {rest : List UInt8}
    (hn : n < 64) (h : lastGroup start (index + 1) none rest = .ok (values, pads)) :
    lastGroup start index none (code (symbol n) :: rest) = .ok (n :: values, pads) := by
  obtain ⟨hvalue, hpad, -⟩ := symbol_spec n hn
  simp only [lastGroup, if_neg hpad, hvalue, h]

/-- The bits that six-bit values share out make the bytes again. -/
theorem join_bits (a b c : UInt8) :
    UInt8.ofNat (a.toNat / 4 * 4 + (a.toNat % 4 * 16 + b.toNat / 16) / 16) = a ∧
      UInt8.ofNat ((a.toNat % 4 * 16 + b.toNat / 16) % 16 * 16 +
        (b.toNat % 16 * 4 + c.toNat / 64) / 4) = b ∧
      UInt8.ofNat ((b.toNat % 16 * 4 + c.toNat / 64) % 4 * 64 + c.toNat % 64) = c := by
  have ha := a.toNat_lt
  have hb := b.toNat_lt
  have hc := c.toNat_lt
  have hfirst : a.toNat / 4 * 4 + (a.toNat % 4 * 16 + b.toNat / 16) / 16 = a.toNat := by omega
  have hsecond : (a.toNat % 4 * 16 + b.toNat / 16) % 16 * 16 +
      (b.toNat % 16 * 4 + c.toNat / 64) / 4 = b.toNat := by omega
  have hthird : (b.toNat % 16 * 4 + c.toNat / 64) % 4 * 64 + c.toNat % 64 = c.toNat := by omega
  rw [hfirst, hsecond, hthird]
  exact ⟨UInt8.ofNat_toNat, UInt8.ofNat_toNat, UInt8.ofNat_toNat⟩

theorem decodeLast_one (start : Nat) (a : UInt8) :
    decodeLast start ((encodeChars [a]).map code) = .ok [a] := by
  have ha := a.toNat_lt
  have hgroup : lastGroup start 0 none ((encodeChars [a]).map code) =
      .ok ([a.toNat / 4, a.toNat % 4 * 16], 2) :=
    lastGroup_symbol (by omega) (lastGroup_symbol (by omega) rfl)
  have hfirst := (join_bits a 0 0).1
  have hbits : a.toNat % 4 * 16 % 16 = 0 := by omega
  simp only [decodeLast, hgroup]
  simp_all

theorem decodeLast_two (start : Nat) (a b : UInt8) :
    decodeLast start ((encodeChars [a, b]).map code) = .ok [a, b] := by
  have ha := a.toNat_lt
  have hb := b.toNat_lt
  have hgroup : lastGroup start 0 none ((encodeChars [a, b]).map code) =
      .ok ([a.toNat / 4, a.toNat % 4 * 16 + b.toNat / 16, b.toNat % 16 * 4], 1) :=
    lastGroup_symbol (by omega) (lastGroup_symbol (by omega) (lastGroup_symbol (by omega) rfl))
  obtain ⟨hfirst, hsecond, -⟩ := join_bits a b 0
  have hbits : b.toNat % 16 * 4 % 4 = 0 := by omega
  simp only [decodeLast, hgroup]
  simp_all

theorem decodeLast_three (start : Nat) (a b c : UInt8) :
    decodeLast start ((encodeChars [a, b, c]).map code) = .ok [a, b, c] := by
  have ha := a.toNat_lt
  have hb := b.toNat_lt
  have hc := c.toNat_lt
  have hgroup : lastGroup start 0 none ((encodeChars [a, b, c]).map code) =
      .ok ([a.toNat / 4, a.toNat % 4 * 16 + b.toNat / 16, b.toNat % 16 * 4 + c.toNat / 64,
        c.toNat % 64], 0) :=
    lastGroup_symbol (by omega) (lastGroup_symbol (by omega) (lastGroup_symbol (by omega)
      (lastGroup_symbol (by omega) rfl)))
  obtain ⟨hfirst, hsecond, hthird⟩ := join_bits a b c
  simp only [decodeLast, hgroup]
  simp_all

theorem encodeChars_ne_nil {bytes : List UInt8} (h : bytes ≠ []) : encodeChars bytes ≠ [] := by
  fun_cases encodeChars bytes with
  | case1 => exact absurd rfl h
  | case2 | case3 | case4 => exact List.cons_ne_nil _ _

/-- A group that is not the last is read symbol by symbol. -/
theorem decodeGroups_group {start w x y z : Nat} {byte : UInt8} {rest bytes : List UInt8}
    (hw : w < 64) (hx : x < 64) (hy : y < 64) (hz : z < 64)
    (hrest : decodeGroups (start + 4) (byte :: rest) = .ok bytes) :
    decodeGroups start (code (symbol w) :: code (symbol x) :: code (symbol y) :: code (symbol z) ::
      byte :: rest) = .ok (UInt8.ofNat (w * 4 + x / 16) :: UInt8.ofNat (x % 16 * 16 + y / 4) ::
        UInt8.ofNat (y % 4 * 64 + z) :: bytes) := by
  simp only [decodeGroups, (symbol_spec w hw).1, (symbol_spec x hx).1, (symbol_spec y hy).1,
    (symbol_spec z hz).1, hrest]

theorem decodeGroups_encodeChars {bytes : List UInt8} (h : bytes ≠ []) (start : Nat) :
    decodeGroups start ((encodeChars bytes).map code) = .ok bytes := by
  fun_induction encodeChars bytes generalizing start with
  | case1 => exact absurd rfl h
  | case2 a => exact decodeLast_one start a
  | case3 a b => exact decodeLast_two start a b
  | case4 a b c rest ih =>
    by_cases hrest : rest = []
    · rw [hrest]
      exact decodeLast_three start a b c
    · have ha := a.toNat_lt
      have hb := b.toNat_lt
      have hc := c.toNat_lt
      have hmore := ih hrest (start + 4)
      obtain ⟨hfirst, hsecond, hthird⟩ := join_bits a b c
      cases hchars : encodeChars rest with
      | nil => exact absurd hchars (encodeChars_ne_nil hrest)
      | cons d ds =>
        rw [hchars] at hmore
        have hgroup := decodeGroups_group (w := a.toNat / 4) (x := a.toNat % 4 * 16 + b.toNat / 16)
          (y := b.toNat % 16 * 4 + c.toNat / 64) (z := c.toNat % 64) (by omega) (by omega)
          (by omega) (by omega) hmore
        rw [hfirst, hsecond, hthird] at hgroup
        exact hgroup

theorem decode_encodeChars (bytes : List UInt8) :
    decode ((encodeChars bytes).map code) = .ok bytes := by
  by_cases hbytes : bytes = []
  · rw [hbytes]
    rfl
  · have hlength : ((encodeChars bytes).map code).length % 4 = 0 := by
      rw [List.length_map]
      exact length_encodeChars bytes
    have hgroups := decodeGroups_encodeChars hbytes 0
    rw [decode]
    split
    case h_1 hlast =>
      rw [List.getLast?_eq_none_iff, List.map_eq_nil_iff] at hlast
      exact absurd hlast (encodeChars_ne_nil hbytes)
    case h_2 => rw [if_neg (by omega), hgroups]

end Base64

end Text

namespace Token

theorem bytesOfBase64_encode (bytes : List UInt8) :
    bytesOfBase64 (Text.Base64.encode bytes) = .ok bytes := by
  have hplain (c : Char) (hc : c ∈ Text.Base64.encodeChars bytes) :=
    Text.Base64.plain_of_mem_encodeChars hc
  rw [bytesOfBase64, Text.Base64.encode, String.toList_ofList,
    Text.trim_eq_self fun c hc => (hplain c hc).1,
    Text.Base64.encode_ofList fun c hc => (hplain c hc).2, Text.Base64.decode_encodeChars]

end Token

end Warrant
