import Warrant.Proofs.Calendar
import Warrant.Proofs.Reading
import Warrant.Proofs.SetForming
import Warrant.Render

namespace Warrant

namespace Text.Hex

theorem digit_spec : ∀ n < 16, hexDigit? (digit n) = some n ∧
    (digit n).toNat < 256 := by decide

theorem decodePairs_encodeChars (position : Nat) (b : List UInt8) :
    decodePairs position ((encodeChars b).map fun c => UInt8.ofNat c.toNat) =
      .ok b := by
  induction b generalizing position with
  | nil => rfl
  | cons x xs ih =>
    obtain ⟨hhigh, hhigh'⟩ := digit_spec (x.toNat / 16) (by have := x.toNat_lt; omega)
    obtain ⟨hlow, hlow'⟩ := digit_spec (x.toNat % 16) (by omega)
    have hback {c : Char} (hc : c.toNat < 256) : Char.ofNat (UInt8.ofNat c.toNat).toNat = c := by
      rw [UInt8.toNat_ofNat_of_lt' hc, Char.ofNat_toNat]
    have hvalue : UInt8.ofNat (16 * (x.toNat / 16) + x.toNat % 16) = x := by
      rw [Nat.div_add_mod, UInt8.ofNat_toNat]
    have hcons : encodeChars (x :: xs) = digit (x.toNat / 16) ::
        digit (x.toNat % 16) :: encodeChars xs := rfl
    rw [hcons, List.map_cons, List.map_cons, decodePairs, hback hhigh', hback hlow', hhigh,
      hlow]
    dsimp only
    rw [ih, hvalue]

theorem exists_of_mem_encodeChars {b : List UInt8} {c : Char} (h : c ∈ encodeChars b) :
    ∃ n < 16, c = digit n := by
  obtain ⟨x, -, hc⟩ := List.mem_flatMap.1 h
  have hx := x.toNat_lt
  simp only [List.mem_cons, List.not_mem_nil, or_false] at hc
  rcases hc with rfl | rfl
  · exact ⟨x.toNat / 16, by omega, rfl⟩
  · exact ⟨x.toNat % 16, by omega, rfl⟩

theorem length_encodeChars (b : List UInt8) : (encodeChars b).length = 2 * b.length := by
  induction b with
  | nil => rfl
  | cons x xs ih =>
    rw [encodeChars] at ih
    simp only [encodeChars, List.flatMap_cons, List.length_append, ih, List.length_cons,
      List.length_nil]
    omega

/-- Bytes are read from their digits. -/
theorem decode_encodeChars (b : List UInt8) :
    decode ((encodeChars b).map fun c => UInt8.ofNat c.toNat) = .ok b := by
  have heven : ((encodeChars b).map fun c => UInt8.ofNat c.toNat).length % 2 ≠ 1 := by
    rw [List.length_map, length_encodeChars]
    omega
  rw [decode, if_neg heven, decodePairs_encodeChars]

end Text.Hex

namespace Grammar

open Warrant.Grammar.Parser

/-- What may come after a lexeme: nothing, or a separator. No opening parenthesis may be next. -/
def Ends (rest : List Char) : Prop :=
  (∀ c ∈ rest.head?, c ∈ [' ', ',', ')', ']', '.']) ∧
    (rest.dropWhile isSpacing).head? ≠ some '('

theorem Ends.head_eq_false {rest : List Char} (h : Ends rest) {p : Char → Bool}
    (hp : ∀ c ∈ [' ', ',', ')', ']', '.'], p c = false) : ∀ c ∈ rest.head?, p c = false :=
  fun c hc => hp c (h.1 c hc)

/-- Whether a text is a name. -/
def IsName (n : String) : Prop :=
  ∃ c cs, n.toList = c :: cs ∧ isNameStart c = true ∧ ∀ d ∈ cs, isNameChar d = true

theorem mem_of_isSpacing {c : Char} (hc : isSpacing c = true) : c ∈ [' ', '\t', '\r', '\n'] := by
  simpa [isSpacing, or_assoc] using hc

theorem isSpacing_of_isNameChar {c : Char} (hc : isNameChar c = true) : isSpacing c = false := by
  have hspaces : ∀ c ∈ [' ', '\t', '\r', '\n'], isNameChar c = false := by decide
  by_contra hspacing
  rw [hspaces c (mem_of_isSpacing (by simpa using hspacing))] at hc
  cases hc

theorem isNameChar_of_isNameStart {c : Char} (hc : isNameStart c = true) :
    isNameChar c = true := by
  simp only [isNameStart, Bool.or_eq_true] at hc
  rcases hc with hc | hc <;> simp [isNameChar, Char.isAlphanum, hc]

theorem IsName.isNameChar {n : String} (h : IsName n) : ∀ c ∈ n.toList, isNameChar c = true := by
  obtain ⟨c, cs, hn, hc, hcs⟩ := h
  rw [hn]
  exact List.forall_mem_cons.2 ⟨isNameChar_of_isNameStart hc, hcs⟩

theorem IsName.head_eq_false {n : String} (h : IsName n) (rest : List Char) :
    ∀ c ∈ (n.toList ++ rest).head?, isSpacing c = false := by
  obtain ⟨c, cs, hn, hc, -⟩ := h
  rw [hn]
  rintro d ⟨⟩
  exact isSpacing_of_isNameChar (isNameChar_of_isNameStart hc)

/-- A name is read up to a character that does not belong to it. -/
theorem name_append {n : String} (hn : IsName n) {rest : List Char}
    (hrest : ∀ c ∈ rest.head?, isNameChar c = false) : name (n.toList ++ rest) = .ok n rest := by
  obtain ⟨c, cs, hlist, hc, hcs⟩ := hn
  have hname : String.ofList (c :: cs) = n := by rw [← hlist, String.ofList_toList]
  rw [hlist, List.cons_append, name, if_pos hc, takeWhile_append hrest hcs,
    dropWhile_append hrest hcs, hname]

theorem name_eq_ok_iff {text : List Char} {n : String} {rest : List Char} :
    name text = .ok n rest ↔
      text = n.toList ++ rest ∧ IsName n ∧ ∀ c ∈ rest.head?, isNameChar c = false := by
  refine ⟨fun h => ?_, ?_⟩
  · cases text with
    | nil => cases h
    | cons c cs =>
      rw [name] at h
      split at h
      case isTrue hc =>
        cases h
        rw [IsName, String.toList_ofList, List.cons_append, List.takeWhile_append_dropWhile]
        refine ⟨rfl, ⟨c, _, rfl, hc, List.all_eq_true.1 List.all_takeWhile⟩, fun d hd => ?_⟩
        have hstop := List.head?_dropWhile_not isNameChar cs
        rwa [Option.mem_def.1 hd] at hstop
      case isFalse => cases h
  · rintro ⟨rfl, hn, hrest⟩
    exact name_append hn hrest

theorem scalar_variable {v : String} (hne : v ≠ "") (hv : ∀ c ∈ v.toList, isVariableChar c = true)
    {rest : List Char} (hrest : Ends rest) :
    scalar ('$' :: (v.toList ++ rest)) = .ok (.var v) rest := by
  have hhead := hrest.head_eq_false (p := isVariableChar) (by decide)
  have hrun : run1 isVariableChar (v.toList ++ rest) = .ok v.toList rest := by
    have hsome : v.toList ≠ [] := fun h => hne (String.toList_inj.1 h)
    rw [run1, takeWhile_append hhead hv, dropWhile_append hhead hv]
    simp [hsome]
  have hread : variableName ('$' :: (v.toList ++ rest)) = .ok (.var v) rest := by
    refine (bind_of_ok (rfl : sign "$" _ = .ok () (v.toList ++ rest))).trans ?_
    refine (bind_of_ok hrun).trans ?_
    rw [String.ofList_toList]
    rfl
  exact orElse_of_ok hread

/-- Whether a character is written in quotes as it is or with an escape that is read. -/
def Plain (c : Char) : Prop := c ∈ ['\\', '"', '\n', '\t'] ∨ Text.escapeChar '"' c = [c]

theorem exists_unescape_of_mem {c : Char} (hc : c ∈ ['\\', '"', '\n', '\t']) :
    ∃ d, Text.escapeChar '"' c = ['\\', d] ∧ unescape? d = some c := by
  simp only [List.mem_cons, List.not_mem_nil, or_false] at hc
  rcases hc with rfl | rfl | rfl | rfl
  · exact ⟨'\\', rfl, rfl⟩
  · exact ⟨'"', rfl, rfl⟩
  · exact ⟨'n', rfl, rfl⟩
  · exact ⟨'t', rfl, rfl⟩

theorem stringChars_escapeChar {c : Char} (hc : Plain c) (text : List Char) :
    stringChars (Text.escapeChar '"' c ++ text) =
      (stringChars text).map fun (chars, rest) => (c :: chars, rest) := by
  rcases hc with hc | hc
  · obtain ⟨d, hd, hunescape⟩ := exists_unescape_of_mem hc
    rw [hd, List.cons_append, List.singleton_append, stringChars, hunescape]
    cases stringChars text <;> rfl
  · have hslash : c ≠ '\\' := by
      rintro rfl
      exact absurd hc (by decide)
    have hquote : c ≠ '"' := by
      rintro rfl
      exact absurd hc (by decide)
    rw [hc, List.singleton_append, stringChars]
    · cases stringChars text <;> rfl
    · exact hquote
    · exact fun d ds h => absurd h hslash
    · exact fun h => absurd h hslash

theorem stringChars_flatMap {chars : List Char} (h : ∀ c ∈ chars, Plain c) (rest : List Char) :
    stringChars (chars.flatMap (Text.escapeChar '"') ++ '"' :: rest) =
      some (chars, '"' :: rest) := by
  induction chars with
  | nil => rfl
  | cons c cs ih =>
    obtain ⟨hc, hcs⟩ := List.forall_mem_cons.1 h
    rw [List.flatMap_cons, List.append_assoc, stringChars_escapeChar hc, ih hcs]
    rfl

/-- What begins with a quote is no variable and no name. -/
theorem scalar_quote (cs : List Char) : scalar ('"' :: cs) =
    stringLiteral.orElse (date.orElse (bytes.orElse (boolean.orElse integer))) ('"' :: cs) := by
  have hvariable : variableName.Mismatches ('"' :: cs) := Mismatches.bind ⟨_, _, rfl⟩
  have hsymbol : symbol.Mismatches ('"' :: cs) := Mismatches.bind ⟨_, _, rfl⟩
  rw [scalar, hvariable.orElse_eq, hsymbol.orElse_eq]

theorem quoteChars_append (chars rest : List Char) : Text.quoteChars '"' chars ++ rest =
    '"' :: (chars.flatMap (Text.escapeChar '"') ++ '"' :: rest) := by
  simp [Text.quoteChars]

theorem scalar_string {s : String} (hs : ∀ c ∈ s.toList, Plain c) (rest : List Char) :
    scalar (Text.quoteChars '"' s.toList ++ rest) = .ok (.str s) rest := by
  rw [quoteChars_append, scalar_quote]
  refine orElse_of_ok ((bind_of_ok (rfl : quote _ = .ok () _)).trans ?_)
  refine (bind_of_ok (?_ : _ = Outcome.ok s.toList ('"' :: rest))).trans ?_
  · rw [stringChars_flatMap hs]
  · rw [String.ofList_toList]
    rfl

/-- What is no variable, no name and no string in quotes begins with another character. -/
theorem scalar_of_head {c : Char} (hc : isSpacing c = false) (hdollar : c ≠ '$') (hhash : c ≠ '#')
    (hquote : c ≠ '"') (cs : List Char) :
    scalar (c :: cs) = date.orElse (bytes.orElse (boolean.orElse integer)) (c :: cs) := by
  have hvariable : variableName.Mismatches (c :: cs) :=
    Mismatches.bind (sign_mismatches_cons (by rfl) hc hdollar)
  have hsymbol : symbol.Mismatches (c :: cs) :=
    Mismatches.bind (sign_mismatches_cons (by rfl) hc hhash)
  have hstring : stringLiteral.Mismatches (c :: cs) := by
    refine Mismatches.bind ⟨.quote, c :: cs, ?_⟩
    rw [quote]
    rintro rest ⟨⟩
    exact hquote rfl
  rw [scalar, hvariable.orElse_eq, hsymbol.orElse_eq, hstring.orElse_eq]

theorem toNat_of_isDigit {c : Char} (h : c.isDigit = true) : 48 ≤ c.toNat ∧ c.toNat ≤ 57 := by
  simp only [Char.isDigit, Bool.and_eq_true, decide_eq_true_eq, UInt32.le_iff_toNat_le] at h
  exact h

theorem isDigit_of_ascii {c : Char} (h : c.isDigit = true) : Unicode.isDigit c = true := by
  have hlow : c.toNat < 0x80 := (toNat_of_isDigit h).2.trans_lt (by decide)
  rw [Unicode.isDigit, if_pos hlow, h]

theorem isNameStart_of_isDigit {c : Char} (h : c.isDigit = true) : isNameStart c = false := by
  have hdigits : ∀ n ≤ 57, 48 ≤ n → isNameStart (Char.ofNat n) = false := by decide
  obtain ⟨hlow, hhigh⟩ := toNat_of_isDigit h
  rw [← Char.ofNat_toNat c]
  exact hdigits c.toNat hhigh hlow

/-- Numbers and dates begin with characters that nothing else begins with. -/
theorem ne_of_numeral {c : Char} (hc : c = '-' ∨ c.isDigit = true) :
    isSpacing c = false ∧ isNameStart c = false ∧
      ∀ d ∈ ['$', '#', '"', 'h', 't', 'f', '(', '!'], c ≠ d := by
  rcases hc with rfl | hc
  · decide
  · refine ⟨?_, ?_, ?_⟩
    · exact isSpacing_of_isNameChar (by simp [isNameChar, Char.isAlphanum, hc])
    · exact isNameStart_of_isDigit hc
    · rintro d hd rfl
      have hnone : ∀ d ∈ ['$', '#', '"', 'h', 't', 'f', '(', '!'], d.isDigit = false := by decide
      rw [hnone c hd] at hc
      cases hc

theorem scalar_of_numeral {c : Char} (hc : c = '-' ∨ c.isDigit = true) (cs : List Char) :
    scalar (c :: cs) = date.orElse (bytes.orElse (boolean.orElse integer)) (c :: cs) := by
  obtain ⟨hspacing, -, hne⟩ := ne_of_numeral hc
  exact scalar_of_head hspacing (hne _ (by decide)) (hne _ (by decide)) (hne _ (by decide)) cs

theorem takeDigits?_padded (width n : Nat) (text : List Char) :
    takeDigits? width (Text.Calendar.padded width n ++ text) = some text := by
  have htake : (Text.Calendar.padded width n ++ text).take width =
      Text.Calendar.padded width n := by
    rw [List.take_append_of_le_length (by simp), List.take_of_length_le (by simp)]
  have hdigits : (Text.Calendar.padded width n).all Unicode.isDigit = true :=
    List.all_eq_true.2 fun c hc => isDigit_of_ascii (Text.Calendar.isDigit_of_mem_padded hc)
  rw [takeDigits?, htake, Text.Calendar.length_padded, if_pos ⟨rfl, hdigits⟩,
    List.drop_append_of_le_length (by simp), List.drop_of_length_le (by simp), List.nil_append]

/-- A date is read from what is written of it. -/
theorem scalar_date {d : UInt64} {text : List Char} (h : Text.Calendar.format? d.toNat = some text)
    (rest : List Char) : scalar (text ++ rest) = .ok (.date d) rest := by
  have hparse := Text.Calendar.parse?_of_format? h
  obtain ⟨year, month, day, hour, minute, second, htext⟩ := Text.Calendar.exists_of_format? h
  have hafter : afterDate? (text ++ rest) = some rest := by
    rw [htext]
    simp only [List.append_assoc, List.cons_append, List.nil_append, afterDate?,
      takeDigits?_padded, Option.bind_some, Text.Calendar.mark?_cons, Option.bind_eq_bind]
    rfl
  have hdate : date (text ++ rest) = .ok (.date d) rest := by
    have htake : (text ++ rest).take ((text ++ rest).length - rest.length) = text := by simp
    rw [date, hafter]
    dsimp only
    rw [htake, hparse]
    simp
  obtain ⟨c, cs, hcons, hc⟩ := Text.Calendar.exists_digit_of_format? h
  rw [hcons] at hdate ⊢
  rw [List.cons_append, scalar_of_numeral (.inr hc)]
  exact orElse_of_ok hdate

theorem isHexDigit_of_mem_encodeChars {b : List UInt8} {c : Char}
    (h : c ∈ Text.Hex.encodeChars b) : isHexDigit c = true := by
  obtain ⟨n, hn, rfl⟩ := Text.Hex.exists_of_mem_encodeChars h
  rw [isHexDigit, (Text.Hex.digit_spec n hn).1]
  rfl

theorem afterDate?_of_head {c : Char} (hc : Unicode.isDigit c = false) (cs : List Char) :
    afterDate? (c :: cs) = none := by
  have hfield : takeDigits? 4 (c :: cs) = none := by
    rw [takeDigits?, if_neg]
    simp [hc]
  rw [afterDate?, hfield]
  rfl

theorem date_mismatches {text : List Char} (h : afterDate? text = none) : date.Mismatches text :=
  ⟨.lexeme, text, by rw [date, h]⟩

theorem scalar_bytes (b : List UInt8) {rest : List Char} (hrest : Ends rest) :
    scalar ("hex:".toList ++ (Text.Hex.encodeChars b ++ rest)) = .ok (.bytes b) rest := by
  have hhead := hrest.head_eq_false (p := isHexDigit) (by decide)
  have hdigits := fun c (hc : c ∈ Text.Hex.encodeChars b) => isHexDigit_of_mem_encodeChars hc
  have hread : bytes ("hex:".toList ++ (Text.Hex.encodeChars b ++ rest)) = .ok (.bytes b) rest := by
    have hsign : sign "hex:" ("hex:".toList ++ (Text.Hex.encodeChars b ++ rest)) =
        .ok () (Text.Hex.encodeChars b ++ rest) := rfl
    rw [bytes, hsign]
    dsimp only
    rw [takeWhile_append hhead hdigits, dropWhile_append hhead hdigits,
      Text.Hex.decode_encodeChars]
  have hdate : date.Mismatches ("hex:".toList ++ (Text.Hex.encodeChars b ++ rest)) :=
    date_mismatches (afterDate?_of_head (by rfl) _)
  refine (scalar_of_head (by rfl) (by decide) (by decide) (by decide) _).trans ?_
  exact hdate.orElse_eq.trans (orElse_of_ok hread)

theorem bytes_mismatches {c : Char} (hc : isSpacing c = false) (hne : c ≠ 'h') (cs : List Char) :
    bytes.Mismatches (c :: cs) := by
  have hsign : (sign "hex:").Mismatches (c :: cs) := sign_mismatches_cons (by rfl) hc hne
  obtain ⟨fault, rest, h⟩ := hsign
  exact ⟨fault, rest, by rw [bytes, h]⟩

theorem scalar_boolean (b : Bool) {rest : List Char} (hrest : Ends rest) :
    scalar ((toString b).toList ++ rest) = .ok (.bool b) rest := by
  have hhead := hrest.head_eq_false (p := Unicode.isWord) (by decide)
  have hword : rest.head?.any Unicode.isWord = false := by
    cases rest with
    | nil => rfl
    | cons c cs => exact hhead c rfl
  have hread : boolean ((toString b).toList ++ rest) = .ok (.bool b) rest := by
    cases b with
    | false =>
      change boolean ('f' :: 'a' :: 'l' :: 's' :: 'e' :: rest) = _
      simp [boolean, wholeWord?, hword]
    | true =>
      change boolean ('t' :: 'r' :: 'u' :: 'e' :: rest) = _
      simp [boolean, wholeWord?, hword]
  obtain ⟨c, cs, htext, hc⟩ : ∃ c cs, (toString b).toList ++ rest = c :: cs ∧ c ∈ ['t', 'f'] := by
    cases b with
    | false => exact ⟨'f', _, rfl, by decide⟩
    | true => exact ⟨'t', _, rfl, by decide⟩
  have hchars : ∀ c ∈ ['t', 'f'], isSpacing c = false ∧ c ≠ '$' ∧ c ≠ '#' ∧ c ≠ '"' ∧
      Unicode.isDigit c = false ∧ c ≠ 'h' := by decide
  obtain ⟨hspacing, hdollar, hhash, hquote, hdigit, hh⟩ := hchars c hc
  rw [htext] at hread ⊢
  rw [scalar_of_head hspacing hdollar hhash hquote,
    (date_mismatches (afterDate?_of_head hdigit cs)).orElse_eq,
    (bytes_mismatches hspacing hh cs).orElse_eq]
  exact orElse_of_ok hread

theorem boolean_mismatches {c : Char} (ht : c ≠ 't') (hf : c ≠ 'f') (cs : List Char) :
    boolean.Mismatches (c :: cs) := by
  have hword {w : Char} {ws : List Char} (hne : c ≠ w) : wholeWord? (w :: ws) (c :: cs) = none := by
    simp [wholeWord?, Ne.symm hne]
  exact ⟨.lexeme, c :: cs, by
    have htrue : wholeWord? "true".toList (c :: cs) = none := hword ht
    have hfalse : wholeWord? "false".toList (c :: cs) = none := hword hf
    rw [boolean, htrue, hfalse]⟩

/-- Digits that no hyphen follows do not begin a date. -/
theorem afterDate?_of_dropWhile {text : List Char}
    (h : (text.dropWhile Unicode.isDigit).head? ≠ some '-') : afterDate? text = none := by
  have hyear : takeDigits? 4 text >>= Text.Calendar.mark? '-' = none := by
    rw [takeDigits?]
    split
    case isFalse => rfl
    case isTrue hfour =>
      change Text.Calendar.mark? '-' (text.drop 4) = none
      cases hdrop : text.drop 4 with
      | nil => rfl
      | cons c cs =>
        rw [Text.Calendar.mark?, if_neg]
        rintro rfl
        -- the digits would end with the year, and the hyphen would follow them
        have hsplit := List.take_append_drop 4 text
        rw [hdrop] at hsplit
        rw [← hsplit, dropWhile_append (by simp; rfl) (List.all_eq_true.1 hfour.2)] at h
        exact h rfl
  rw [afterDate?]
  simp only [hyear]
  rfl

theorem integer_append {minus digits rest : List Char} (hminus : minus = [] ∨ minus = ['-'])
    (hsome : digits ≠ []) (hdigits : ∀ c ∈ digits, c.isDigit = true) (hrest : Ends rest) {i : Int64}
    (hi : Text.integer64? (minus ++ digits) = some i) :
    integer (minus ++ (digits ++ rest)) = .ok (.integer i) rest := by
  have hhead := hrest.head_eq_false (p := Unicode.isDigit) (by decide)
  have hdigits' : ∀ c ∈ digits, Unicode.isDigit c = true :=
    fun c hc => isDigit_of_ascii (hdigits c hc)
  have hmark : (if (minus ++ (digits ++ rest)).head? = some '-' then ['-'] else []) = minus := by
    rcases hminus with rfl | rfl
    · cases digits with
      | nil => exact absurd rfl hsome
      | cons c cs =>
        have hc : c ≠ '-' := by
          rintro rfl
          exact absurd (hdigits _ List.mem_cons_self) (by decide)
        simp [hc]
    · rfl
  have hempty : digits.isEmpty = false := by simpa using hsome
  rw [integer, hmark]
  simp only [List.drop_left, takeWhile_append hhead hdigits', hempty, hi]
  simp

/-- Digits are an integer, or there is none of 64 bits. -/
theorem integer_cons_of_digit {c : Char} (hc : c.isDigit = true) (cs : List Char) :
    (∃ n, integer (c :: cs) = .ok (.integer n) ((c :: cs).dropWhile Unicode.isDigit)) ∨
      integer (c :: cs) = .failure .meaning (c :: cs) := by
  have hne : c ≠ '-' := by
    rintro rfl
    cases hc
  have hmark : (if (c :: cs).head? = some '-' then ['-'] else []) = [] := by simp [hne]
  have hsome : ((c :: cs).takeWhile Unicode.isDigit).isEmpty = false := by
    simp [isDigit_of_ascii hc]
  have hdrop : (c :: cs).drop ((c :: cs).takeWhile Unicode.isDigit).length =
      (c :: cs).dropWhile Unicode.isDigit :=
    (congrArg (List.drop _) List.takeWhile_append_dropWhile.symm).trans List.drop_left
  rw [integer, hmark]
  simp only [List.length_nil, List.drop_zero, List.nil_append, Nat.zero_add, hdrop, hsome]
  cases Text.integer64? ((c :: cs).takeWhile Unicode.isDigit) with
  | none => exact .inr rfl
  | some n => exact .inl ⟨n, rfl⟩

theorem natural?_toDigits (n : Nat) : Text.natural? (Nat.toDigits 10 n) = some n := by
  have hdigits : (Nat.toDigits 10 n).all Char.isDigit = true :=
    List.all_eq_true.2 fun c hc => Nat.isDigit_of_mem_toDigits (by decide) (by decide) hc
  have hvalue : Text.decimal (Nat.toDigits 10 n) = n :=
    Nat.ofDigitChars_toDigits (by decide) (by decide)
  rw [Text.natural?, if_pos ⟨Nat.toDigits_ne_nil, hdigits⟩, hvalue]

theorem integer64?_toDigits {i : Int64} (h : 0 ≤ i.toInt) :
    Text.integer64? (Nat.toDigits 10 i.toInt.toNat) = some i := by
  have hle := Int64.toInt_le i
  have hback : ((i.toInt.toNat : Nat) : Int) = i.toInt := Int.toNat_of_nonneg h
  rw [Text.integer64?, natural?_toDigits]
  · dsimp only
    rw [if_pos (by omega)]
    rw [← Int64.ofInt_eq_ofNat, hback, Int64.ofInt_toInt]
  · intro digits hdigits
    have hmem : '-' ∈ Nat.toDigits 10 i.toInt.toNat := hdigits ▸ List.mem_cons_self
    exact absurd (Nat.isDigit_of_mem_toDigits (by decide) (by decide) hmem) (by decide)

theorem integer64?_minus_toDigits {i : Int64} (h : i.toInt < 0) :
    Text.integer64? ('-' :: Nat.toDigits 10 (-i.toInt).toNat) = some i := by
  have hle := Int64.minValue_le_toInt i
  have hback : -(((-i.toInt).toNat : Nat) : Int) = i.toInt := by omega
  rw [Text.integer64?, natural?_toDigits]
  dsimp only
  rw [hback, if_pos hle, Int64.ofInt_toInt]

theorem exists_numeral (i : Int64) : ∃ minus digits,
    (toString i.toInt).toList = minus ++ digits ∧ (minus = [] ∨ minus = ['-']) ∧ digits ≠ [] ∧
      (∀ c ∈ digits, c.isDigit = true) ∧ Text.integer64? (minus ++ digits) = some i := by
  have hrepr : toString i.toInt = _ := Int.repr_eq_if
  have hdigit (n : Nat) (c : Char) (hc : c ∈ Nat.toDigits 10 n) : c.isDigit = true :=
    Nat.isDigit_of_mem_toDigits (by decide) (by decide) hc
  by_cases h : 0 ≤ i.toInt
  · refine ⟨[], Nat.toDigits 10 i.toInt.toNat, ?_, .inl rfl, Nat.toDigits_ne_nil, hdigit _,
      integer64?_toDigits h⟩
    rw [hrepr, if_pos h, Nat.toList_repr, List.nil_append]
  · refine ⟨['-'], Nat.toDigits 10 (-i.toInt).toNat, ?_, .inr rfl, Nat.toDigits_ne_nil, hdigit _,
      integer64?_minus_toDigits (not_le.1 h)⟩
    rw [hrepr, if_neg h, String.toList_append, Nat.toList_repr]
    rfl

/-- What begins as a number does, and is no date, is a number. -/
theorem scalar_eq_integer {c : Char} (hc : c = '-' ∨ c.isDigit = true) {cs : List Char}
    (hdate : afterDate? (c :: cs) = none) : scalar (c :: cs) = integer (c :: cs) := by
  obtain ⟨hspacing, -, hne⟩ := ne_of_numeral hc
  rw [scalar_of_numeral hc, (date_mismatches hdate).orElse_eq,
    (bytes_mismatches hspacing (hne _ (by decide)) cs).orElse_eq,
    (boolean_mismatches (hne _ (by decide)) (hne _ (by decide)) cs).orElse_eq]

theorem scalar_integer (i : Int64) {rest : List Char} (hrest : Ends rest) :
    scalar ((toString i.toInt).toList ++ rest) = .ok (.integer i) rest := by
  obtain ⟨minus, digits, htext, hminus, hsome, hdigits, hi⟩ := exists_numeral i
  have hread := integer_append hminus hsome hdigits hrest hi
  have hdate : afterDate? (minus ++ (digits ++ rest)) = none := by
    rcases hminus with rfl | rfl
    · refine afterDate?_of_dropWhile fun hhyphen => ?_
      rw [List.nil_append, dropWhile_append (hrest.head_eq_false (by decide))
        fun c hc => isDigit_of_ascii (hdigits c hc)] at hhyphen
      exact absurd (hrest.1 '-' hhyphen) (by decide)
    · exact afterDate?_of_head (by rfl) _
  obtain ⟨c, cs, hcons, hc⟩ : ∃ c cs, minus ++ (digits ++ rest) = c :: cs ∧
      (c = '-' ∨ c.isDigit = true) := by
    rcases hminus with rfl | rfl
    · cases digits with
      | nil => exact absurd rfl hsome
      | cons c cs => exact ⟨c, cs ++ rest, rfl, .inr (hdigits c List.mem_cons_self)⟩
    · exact ⟨'-', _, rfl, .inl rfl⟩
  rw [hcons] at hread hdate
  rw [htext, List.append_assoc, hcons, scalar_eq_integer hc hdate, hread]

/-- What begins otherwise than dates, bytes, truth values and integers is none of them. -/
theorem literal_mismatches {c : Char} (hspacing : isSpacing c = false)
    (hdigit : Unicode.isDigit c = false) (hne : ∀ d ∈ ['h', 't', 'f', '-'], c ≠ d)
    (cs : List Char) :
    (date.orElse (bytes.orElse (boolean.orElse integer))).Mismatches (c :: cs) := by
  have hinteger : integer.Mismatches (c :: cs) := by
    have hhead : (c :: cs).head? ≠ some '-' := by simpa using hne '-' (by decide)
    refine ⟨.lexeme, c :: cs, ?_⟩
    rw [integer, if_neg hhead]
    simp [hdigit]
  rw [Mismatches, (date_mismatches (afterDate?_of_head hdigit cs)).orElse_eq,
    (bytes_mismatches hspacing (hne _ (by decide)) cs).orElse_eq,
    (boolean_mismatches (hne _ (by decide)) (hne _ (by decide)) cs).orElse_eq]
  exact hinteger

/-- What begins with a mark that no lexeme begins with, or with a letter that no word of a scalar
    does, is no scalar. -/
theorem scalar_mismatches {c : Char} (hc : c ∈ ['[', ']', ')', '(', '!', ':', 'd'])
    (cs : List Char) : scalar.Mismatches (c :: cs) := by
  have hchars : ∀ c ∈ ['[', ']', ')', '(', '!', ':', 'd'], isSpacing c = false ∧
      Unicode.isDigit c = false ∧ (∀ d ∈ ['$', '#', '"'], c ≠ d) ∧
      ∀ d ∈ ['h', 't', 'f', '-'], c ≠ d := by decide
  obtain ⟨hspacing, hdigit, hne, hliteral⟩ := hchars c hc
  have hrest :=
    scalar_of_head hspacing (hne _ (by decide)) (hne _ (by decide)) (hne _ (by decide)) cs
  rw [Mismatches, hrest]
  exact literal_mismatches hspacing hdigit hliteral cs

theorem set_mismatches {c : Char} {cs : List Char} (hspacing : isSpacing c = false)
    (hne : c ≠ '[') : set.Mismatches (c :: cs) := by
  have hsign : (sign "[").Mismatches (c :: cs) := sign_mismatches_cons (by rfl) hspacing hne
  obtain ⟨fault, rest, helements⟩ := hsign.bind
  exact ⟨fault, rest, by rw [set, helements]⟩

theorem term_mismatches_of_scalar {c : Char} {cs : List Char} (hspacing : isSpacing c = false)
    (hne : c ≠ '[') (hscalar : scalar.Mismatches (c :: cs)) : term.Mismatches (c :: cs) := by
  have hpass : spacing (c :: cs) = .ok () (c :: cs) :=
    spacing_append (List.forall_mem_nil _) (by simpa using hspacing)
  rw [Mismatches, term, bind_of_ok hpass]
  exact orElse_mismatches_iff.2 ⟨hscalar, set_mismatches hspacing hne⟩

theorem term_mismatches {c : Char} (hc : c ∈ [')', '(', '!', ':']) (cs : List Char) :
    term.Mismatches (c :: cs) := by
  have hchars : ∀ c ∈ [')', '(', '!', ':'], isSpacing c = false ∧ c ≠ '[' ∧
      c ∈ ['[', ']', ')', '(', '!', ':', 'd'] := by decide
  obtain ⟨hspacing, hne, hmem⟩ := hchars c hc
  exact term_mismatches_of_scalar hspacing hne (scalar_mismatches hmem cs)

/-- A hyphen is no term without a digit after it. -/
theorem term_mismatches_hyphen {cs : List Char} (h : ∀ c ∈ cs.head?, Unicode.isDigit c = false) :
    term.Mismatches ('-' :: cs) := by
  refine term_mismatches_of_scalar (by decide) (by decide) ⟨.lexeme, '-' :: cs, ?_⟩
  have hnone : cs.takeWhile Unicode.isDigit = [] := by
    cases cs with
    | nil => rfl
    | cons c cs => simp [h c rfl]
  rw [scalar_eq_integer (.inl rfl) (afterDate?_of_head (by rfl) cs), integer]
  simp [hnone]

/-- Whether a text begins as terms do: not as an operation or a predicate. -/
def Opens (text : List Char) : Prop :=
  ∃ c cs, text = c :: cs ∧ isSpacing c = false ∧ c ≠ '(' ∧ c ≠ '!' ∧
    (isNameStart c = false ∨ ∀ d ∈ cs, isNameChar d = true)

theorem Opens.head_eq_false {text : List Char} (h : Opens text) (rest : List Char) :
    ∀ c ∈ (text ++ rest).head?, isSpacing c = false := by
  obtain ⟨c, cs, rfl, hc, -⟩ := h
  simpa using hc

theorem predicate_mismatches_of_head {c : Char} (hspacing : isSpacing c = false)
    (hname : isNameStart c = false) (cs : List Char) {pad : List Char}
    (hpad : ∀ c ∈ pad, isSpacing c = true) : predicate.Mismatches (pad ++ c :: cs) := by
  have hread : name.Mismatches (c :: cs) :=
    ⟨.lexeme, c :: cs, by rw [name, if_neg (by simp [hname])]⟩
  rw [Mismatches, predicate, bind_of_ok (spacing_append hpad (by simpa using hspacing))]
  exact hread.bind

/-- What begins as terms do is no predicate. -/
theorem Opens.predicate_mismatches {text pad rest : List Char} (h : Opens text)
    (hpad : ∀ c ∈ pad, isSpacing c = true) (hrest : Ends rest) :
    predicate.Mismatches (pad ++ (text ++ rest)) := by
  have hpass := spacing_append hpad (h.head_eq_false rest)
  obtain ⟨c, cs, rfl, hspacing, -, -, hname⟩ := h
  by_cases hc : isNameStart c = true
  · have hcs : ∀ d ∈ cs, isNameChar d = true := by simpa [hc] using hname
    have hhead := hrest.head_eq_false (p := isNameChar) (by decide)
    have hread : name (c :: cs ++ rest) = .ok (String.ofList (c :: cs)) rest := by
      rw [List.cons_append, name, if_pos hc, takeWhile_append hhead hcs, dropWhile_append hhead hcs]
    rw [Mismatches, predicate, bind_of_ok hpass, bind_of_ok hread]
    exact (sign_mismatches (by rfl) hrest.2).bind
  · exact predicate_mismatches_of_head hspacing (by simpa using hc) _ hpad

end Grammar

namespace TermOf

/-- Whether a scalar can be written: its string needs no other escapes than those that are read,
    and its date lies before the year 10000. -/
def PlainScalar : Source.Term → Prop
  | .str s => ∀ c ∈ s.toList, Grammar.Plain c
  | .date d => d.toNat ≤ Text.Calendar.lastSecond
  | _ => True

/-- Whether a term, or the elements of a set, can be written. -/
def Plain (t : Source.Term) : Prop :=
  t.PlainScalar ∧ ∀ elements, t = .set elements → ∀ e ∈ elements, e.PlainScalar

/-- Whether a term is read again from what is written of it. -/
structure Writable (t : Source.Term) : Prop where
  name : ∀ v, t = .var v → v ≠ "" ∧ ∀ c ∈ v.toList, Grammar.isVariableChar c = true
  ordered : t.Ordered
  mayBeRead : t.MayBeRead
  plain : t.Plain

variable {symbols : SymbolTable}

theorem kind_resolve (t : Term) : (t.resolve symbols).kind = t.kind := by
  cases t with
  | set elements => rw [resolve_set]; rfl
  | _ => rfl

theorem renderAll_eq (ts : List Term) : renderAll symbols ts = ts.map (render symbols) := by
  induction ts with
  | nil => rw [renderAll, List.map_nil]
  | cons t ts ih => rw [renderAll, ih, List.map_cons]

/-! What terms are written as, character by character. -/

theorem toList_render_var (v : UInt32) :
    (render symbols (.var v)).toList = '$' :: (symbols.name v.toUInt64).toList := by
  rw [render, String.toList_append]
  rfl

theorem toList_render_str (s : UInt64) :
    (render symbols (.str s)).toList = Text.quoteChars '"' (symbols.name s).toList := by
  rw [render, Text.quoted, String.toList_ofList]

theorem toList_render_date {d : UInt64} (h : d.toNat ≤ Text.Calendar.lastSecond) :
    Text.Calendar.format? d.toNat = some (render symbols (.date d)).toList := by
  obtain ⟨text, htext⟩ : ∃ text, Text.Calendar.format? d.toNat = some text := by
    rw [Text.Calendar.format?, if_neg (by omega)]
    exact ⟨_, rfl⟩
  rw [render, renderDate, htext, String.toList_ofList]

theorem toList_render_bytes (b : List UInt8) :
    (render symbols (.bytes b)).toList = "hex:".toList ++ Text.Hex.encodeChars b := by
  rw [render, String.toList_append, Text.Hex.encode, String.toList_ofList, String.toList_ofList]

theorem toList_render_set (elements : List Term) :
    (render symbols (.set elements)).toList =
      '[' :: (", ".toList.intercalate (elements.map fun e => (e.render symbols).toList) ++
        [']']) := by
  rw [render, renderAll_eq, commaSeparated, String.toList_append, String.toList_append,
    String.toList_intercalate, List.map_map]
  rfl

end TermOf

namespace Grammar

open Warrant.Grammar.Parser

variable {symbols : SymbolTable}

theorem opens_of_digit {c : Char} (hc : c = '-' ∨ c.isDigit = true) (cs : List Char) :
    Opens (c :: cs) := by
  obtain ⟨hspacing, hname, hne⟩ := ne_of_numeral hc
  exact ⟨c, cs, rfl, hspacing, hne _ (by decide), hne _ (by decide), .inl hname⟩

theorem opens_render {t : Term} (h : (t.resolve symbols).PlainScalar) :
    Opens (t.render symbols).toList := by
  have hmark {c : Char} (hc : c ∈ ['$', '"', '[']) (cs : List Char) : Opens (c :: cs) := by
    have hchars : ∀ c ∈ ['$', '"', '['], isSpacing c = false ∧ c ≠ '(' ∧ c ≠ '!' ∧
        isNameStart c = false := by decide
    obtain ⟨hspacing, hparen, hbang, hname⟩ := hchars c hc
    exact ⟨c, cs, rfl, hspacing, hparen, hbang, .inl hname⟩
  cases t with
  | var v =>
    rw [TermOf.toList_render_var]
    exact hmark (by decide) _
  | integer i =>
    obtain ⟨minus, digits, htext, hminus, hsome, hdigits, -⟩ := exists_numeral i
    rw [TermOf.render, htext]
    rcases hminus with rfl | rfl
    · cases digits with
      | nil => exact absurd rfl hsome
      | cons c cs => exact opens_of_digit (.inr (hdigits c List.mem_cons_self)) cs
    · exact opens_of_digit (.inl rfl) _
  | str s =>
    rw [TermOf.toList_render_str]
    exact hmark (by decide) _
  | date d =>
    obtain ⟨c, cs, htext, hc⟩ := Text.Calendar.exists_digit_of_format? (TermOf.toList_render_date h)
    rw [htext]
    exact opens_of_digit (.inr hc) cs
  | bytes b =>
    have hdigit : ∀ n < 16, isNameChar (Text.Hex.digit n) = true := by decide
    rw [TermOf.toList_render_bytes]
    refine ⟨'h', "ex:".toList ++ Text.Hex.encodeChars b, rfl, by decide, by decide, by decide,
      .inr (List.forall_mem_append.2 ⟨by decide, fun c hc => ?_⟩)⟩
    obtain ⟨n, hn, rfl⟩ := Text.Hex.exists_of_mem_encodeChars hc
    exact hdigit n hn
  | bool b =>
    rw [TermOf.render]
    cases b with
    | false => exact ⟨'f', _, rfl, by decide⟩
    | true => exact ⟨'t', _, rfl, by decide⟩
  | set elements =>
    rw [TermOf.toList_render_set]
    exact hmark (by decide) _

/-- Scalars are read from what is written of them. -/
theorem scalar_render {t : Term} (hset : t.kind ≠ .set)
    (hname : ∀ v, t.resolve symbols = .var v → v ≠ "" ∧ ∀ c ∈ v.toList, isVariableChar c = true)
    (hplain : (t.resolve symbols).PlainScalar) {rest : List Char} (hrest : Ends rest) :
    scalar ((t.render symbols).toList ++ rest) = .ok (t.resolve symbols) rest := by
  cases t with
  | var v =>
    obtain ⟨hsome, hchars⟩ := hname _ rfl
    rw [TermOf.toList_render_var]
    exact scalar_variable hsome hchars hrest
  | integer i =>
    rw [TermOf.render]
    exact scalar_integer i hrest
  | str s =>
    rw [TermOf.toList_render_str]
    exact scalar_string hplain rest
  | date d => exact scalar_date (TermOf.toList_render_date hplain) rest
  | bytes b =>
    rw [TermOf.toList_render_bytes, List.append_assoc]
    exact scalar_bytes b hrest
  | bool b =>
    rw [TermOf.render]
    exact scalar_boolean b hrest
  | set elements => exact absurd rfl hset

/-- The elements of sets are read from what is written of them. -/
theorem element_render {e : Term} (hvar : e.kind ≠ .var) (hset : e.kind ≠ .set)
    (hplain : (e.resolve symbols).PlainScalar) :
    Parser.Reads (do spacing; scalar) Ends (e.render symbols).toList (e.resolve symbols) := by
  intro pad rest hpad hrest
  have hpass := spacing_append hpad ((opens_render hplain).head_eq_false rest)
  have hkind : (e.resolve symbols).kind = e.kind := TermOf.kind_resolve e
  refine (bind_of_ok hpass).trans (scalar_render hset (fun v hv => ?_) hplain hrest)
  rw [← hkind, hv] at hvar
  exact absurd rfl hvar

/-- A set is read from its elements, in whichever order they are written. -/
theorem set_render {elements : List Term} (h : (TermOf.resolve symbols (.set elements)).Writable)
    (rest : List Char) :
    set ((TermOf.render symbols (.set elements)).toList ++ rest) =
      .ok (TermOf.resolve symbols (.set elements)) rest := by
  obtain ⟨-, -, hread, -, hplain⟩ := h
  rw [TermOf.resolve_set] at hread hplain
  obtain ⟨hscalars, -⟩ := hread _ rfl
  have hitem : ∀ e ∈ elements, Parser.Reads (do spacing; scalar) Ends (e.render symbols).toList
      (e.resolve symbols) := by
    intro e he
    have hmem : e.resolve symbols ∈ SortedList.ofList (elements.map (TermOf.resolve symbols)) :=
      SortedList.mem_ofList.2 (List.mem_map_of_mem he)
    obtain ⟨hvar, hset⟩ := hscalars _ hmem
    rw [TermOf.kind_resolve] at hvar hset
    exact element_render hvar hset (hplain _ rfl _ hmem)
  have hitems : separated0 (sign ",") (do spacing; scalar)
      (", ".toList.intercalate (elements.map fun e => (e.render symbols).toList) ++ ']' :: rest) =
        .ok (elements.map (TermOf.resolve symbols)) (']' :: rest) := by
    refine separated0_append (fun rest => ?_) (fun rest => rfl) hitem (by decide) ?_ ⟨_, _, rfl⟩ ?_
    · simp [Ends, isSpacing]
    · simp [Ends, isSpacing]
    · exact scalar_mismatches (by decide) rest
  have hset : TermOf.setOf (elements.map (TermOf.resolve symbols)) =
      .ok (TermOf.ofElements (elements.map (TermOf.resolve symbols))) := by
    rw [TermOf.setOf, TermOf.validate_eq_ok_iff.2 hread]
  have helements : (do
      sign "["
      let items ← separated0 (sign ",") (do spacing; scalar)
      sign "]"
      return items : Parser (List Source.Term))
        ('[' :: (", ".toList.intercalate (elements.map fun e => (e.render symbols).toList) ++
          ']' :: rest)) = .ok (elements.map (TermOf.resolve symbols)) rest := by
    refine (bind_of_ok (rfl : sign "[" _ = .ok () _)).trans ?_
    refine (bind_of_ok hitems).trans ?_
    exact bind_of_ok (rfl : sign "]" _ = .ok () rest)
  rw [TermOf.toList_render_set, List.cons_append, List.append_assoc, List.singleton_append, set,
    helements, TermOf.resolve_set]
  dsimp only
  rw [Source.setOf_eq, hset]

theorem term_render {t : Term} (h : (t.resolve symbols).Writable) :
    term.Reads Ends (t.render symbols).toList (t.resolve symbols) := by
  intro pad rest hpad hrest
  refine (bind_of_ok (spacing_append hpad ((opens_render h.plain.1).head_eq_false rest))).trans ?_
  cases t with
  | set elements =>
    have hmismatch :
        scalar.Mismatches ((TermOf.render symbols (.set elements)).toList ++ rest) := by
      rw [TermOf.toList_render_set]
      exact scalar_mismatches (by decide) _
    rw [hmismatch.orElse_eq]
    exact set_render h rest
  | _ => exact orElse_of_ok (scalar_render (by simp [TermOf.kind]) h.name h.plain.1 hrest)

theorem reads_render (t : Term) (h : (t.resolve symbols).Writable) :
    Opens (t.render symbols).toList ∧
      term.Reads Ends (t.render symbols).toList (t.resolve symbols) :=
  ⟨opens_render h.plain.1, term_render h⟩

end Grammar

end Warrant
