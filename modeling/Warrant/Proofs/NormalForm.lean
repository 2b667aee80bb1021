import Mathlib.Data.List.Perm.Subperm
import Mathlib.Data.List.Flatten
import Warrant.Proofs.Decoding
import Warrant.Proofs.Faults

namespace Warrant

theorem SymbolTable.mem_names_ofList {names : List String} {name : String} :
    name ∈ (ofList names).names ↔ name ∈ names := by
  suffices hfold : ∀ table : SymbolTable,
      name ∈ (names.foldl insert table).names ↔ name ∈ table.names ∨ name ∈ names by
    exact (hfold empty).trans (or_iff_right List.not_mem_nil)
  induction names with
  | nil => exact fun table => (or_iff_left List.not_mem_nil).symm
  | cons first rest ih =>
    intro table
    rw [List.foldl_cons, ih, mem_names_insert, List.mem_cons, or_assoc]

namespace Wire

variable {α : Type}

/-- Whether what a decoder reads is as it should be and can be written in the bytes that it was read
    from, or in fewer. -/
def Shrinks (decoder : Decoder α) (encode : α → List UInt8) (good : α → Prop) : Prop :=
  Takes decoder fun taken x => good x ∧ (encode x).length ≤ taken.length

theorem length_encodeList_le {encode : α → List UInt8} {parts : List (List UInt8)} {xs : List α}
    (h : List.Forall₂ (fun part x => (encode x).length ≤ part.length) parts xs) :
    (encodeList encode xs).length ≤ (encodeLength xs.length ++ parts.flatten).length := by
  have hitems : (xs.flatMap encode).length ≤ parts.flatten.length := by
    induction h with
    | nil => exact Nat.le_refl 0
    | cons hpart _ ih =>
      rw [List.flatMap_cons, List.flatten_cons, List.length_append, List.length_append]
      exact Nat.add_le_add hpart ih
  rw [encodeList, List.length_append, List.length_append]
  exact Nat.add_le_add_left hitems _

theorem shrinks_list {item : Decoder α} {encode : α → List UInt8} {good : α → Prop}
    (h : Shrinks item encode good) :
    Shrinks (list item) (encodeList encode) fun xs => ∀ x ∈ xs, good x := by
  refine (takes_list h).imp ?_
  rintro taken xs ⟨parts, rfl, hparts⟩
  obtain ⟨hgood, hlengths⟩ := (List.forall₂_and_left _ _).1 hparts.flip
  exact ⟨hgood, length_encodeList_le hlengths.flip⟩

/-- Some of the items of a list, each once, do not take more bytes than the list. -/
theorem length_encodeList_le_of_subset (encode : α → List UInt8) {xs ys : List α}
    (hnodup : ys.Nodup) (hsubset : ys ⊆ xs) :
    (encodeList encode ys).length ≤ (encodeList encode xs).length := by
  obtain ⟨zs, hperm, hsublist⟩ := hnodup.subperm hsubset
  have hitems : (ys.flatMap encode).length ≤ (xs.flatMap encode).length := by
    rw [← (hperm.flatMap_right encode).length_eq]
    exact (hsublist.flatMap encode).length_le
  simp only [encodeList, List.length_append, length_encodeLength]
  exact Nat.add_le_add_left hitems 8

/-- The elements of a set are put in order and repeated ones are dropped, so that it takes no more
    bytes than they did. -/
theorem shrinks_termWithin (depth : Nat) :
    Shrinks (termWithin depth) encodeTerm TermOf.Ordered := by
  induction depth with
  | zero => exact takes_throw _ _
  | succ depth ih =>
    refine (takes_variant 7).bind fun taken n hn => ?_
    obtain ⟨rfl, -⟩ := hn
    have hscalar {α : Type} {item : Decoder α} {encode : α → List UInt8} {f : α → Term}
        (hitem : Canonical item encode) (hordered : ∀ x, (f x).Ordered)
        (hencode : ∀ x, encodeTerm (f x) = encodeVariant n ++ encode x) :
        Takes (do return f (← item)) fun more t =>
          t.Ordered ∧ (encodeTerm t).length ≤ (encodeVariant n ++ more).length := by
      exact hitem.map fun more x hmore => ⟨hordered x, Nat.le_of_eq (by rw [hencode, hmore])⟩
    match n with
    | 0 => exact hscalar canonical_word32 (fun _ => trivial) fun _ => rfl
    | 1 => exact hscalar canonical_word64 (fun _ => trivial) fun _ => rfl
    | 2 => exact hscalar canonical_word64 (fun _ => trivial) fun _ => rfl
    | 3 => exact hscalar canonical_word64 (fun _ => trivial) fun _ => rfl
    | 4 => exact hscalar canonical_bytes (fun _ => trivial) fun _ => rfl
    | 5 => exact hscalar canonical_bool (fun _ => trivial) fun _ => rfl
    | n + 6 =>
      refine (shrinks_list ih).map fun more elements h => ⟨⟨SortedList.pairwise_ofList _, ?_⟩, ?_⟩
      · exact TermOf.allOrdered_iff.2 fun e he => h.1 e (SortedList.mem_ofList.1 he)
      · have hlength := length_encodeList_le_of_subset encodeTerm
          (SortedList.nodup_ofList elements) fun e he => SortedList.mem_ofList.1 he
        rw [TermOf.ofElements, encodeTerm_set, List.length_append, List.length_append,
          length_encodeVariant, length_encodeVariant]
        exact Nat.add_le_add_left (Nat.le_trans hlength h.2) 4

theorem shrinks_term : Shrinks term encodeTerm TermOf.Ordered :=
  fun bytes => shrinks_termWithin (bytes.length + 1) bytes

theorem takes_choice (choices : List α) :
    Takes (choice choices) fun taken _ => taken.length = 4 := by
  refine (takes_variant choices.length).bind fun taken n hn => ?_
  have hlength : (taken ++ []).length = 4 := by rw [List.append_nil, hn.1, length_encodeVariant]
  split
  case h_1 => exact takes_pure hlength
  case h_2 => exact takes_throw _ _

theorem shrinks_op : Shrinks op encodeOp fun op => ∀ t, op.term? = some t → t.Ordered := by
  refine (takes_variant 3).bind fun taken n hn => ?_
  obtain ⟨rfl, -⟩ := hn
  match n with
  | 0 =>
    refine shrinks_term.map fun more t h => ⟨?_, ?_⟩
    · rintro _ ⟨⟩
      exact h.1
    · simpa [encodeOp] using h.2
  | 1 => exact (takes_choice unaryCodes).map fun more which h => ⟨nofun, by simp [encodeOp, h]⟩
  | n + 2 =>
    exact (takes_choice binaryCodes).map fun more which h => ⟨nofun, by simp [encodeOp, h]⟩

theorem shrinks_predicate :
    Shrinks predicate encodePredicate fun p => ∀ t ∈ p.terms, t.Ordered := by
  refine canonical_word64.bind fun taken name hname => ?_
  refine (shrinks_list shrinks_term).map fun more terms h => ⟨h.1, ?_⟩
  rw [encodePredicate, hname, List.length_append, List.length_append]
  exact Nat.add_le_add_left h.2 _

theorem shrinks_rule : Shrinks rule encodeRule fun r => ∀ t ∈ r.terms, t.Ordered := by
  refine shrinks_predicate.bind fun taken head hhead => ?_
  refine (shrinks_list shrinks_predicate).bind fun taken' body hbody => ?_
  refine (shrinks_list (shrinks_list shrinks_op)).map fun more expressions h => ⟨?_, ?_⟩
  · intro t ht
    rcases List.mem_append.1 ht with ht | ht
    · obtain ⟨p, hp, ht⟩ := List.mem_flatMap.1 ht
      exact (List.forall_mem_cons.2 ⟨hhead.1, hbody.1⟩ : _) p hp t ht
    · obtain ⟨e, he, ht⟩ := List.mem_flatMap.1 ht
      obtain ⟨op, hop, ht⟩ := List.mem_filterMap.1 ht
      exact h.1 e he op hop t ht
  · have hlengths := Nat.add_le_add hhead.2 (Nat.add_le_add hbody.2 h.2)
    rw [encodeRule, List.append_assoc]
    simp only [List.length_append]
    exact hlengths

theorem shrinks_check :
    Shrinks check encodeCheck fun c => ∀ query ∈ c.queries, ∀ t ∈ query.terms, t.Ordered :=
  (shrinks_list shrinks_rule).map fun _ _ h => h

/-- What is read as a block begins with its version, and the block can be written in the bytes that
    it was read from, or in fewer. -/
theorem takes_block :
    Takes block fun taken b => (∀ t ∈ b.terms, t.Ordered) ∧
      (encodeBlock b).length ≤ taken.length ∧ ∃ more, taken = encodeWord32 b.version ++ more := by
  refine canonical_word32.bind fun version _ hversion => ?_
  subst hversion
  refine (canonical_list canonical_string).bind fun symbols names hnames => ?_
  refine (shrinks_list shrinks_predicate).bind fun facts' facts hfacts => ?_
  refine (shrinks_list shrinks_rule).bind fun rules' rules hrules => ?_
  refine (shrinks_list shrinks_check).bind fun checks' checks hchecks => ?_
  refine (canonical_option canonical_string).map fun more context hcontext => ⟨?_, ?_, _, rfl⟩
  · intro t ht
    rcases List.mem_append.1 ht with ht | ht
    · obtain ⟨fact, hfact, ht⟩ := List.mem_flatMap.1 ht
      exact hfacts.1 fact hfact t ht
    · obtain ⟨query, hquery, ht⟩ := List.mem_flatMap.1 ht
      rcases List.mem_append.1 hquery with hquery | hquery
      · exact hrules.1 query hquery t ht
      · obtain ⟨check, hcheck, hquery⟩ := List.mem_flatMap.1 hquery
        exact hchecks.1 check hcheck query hquery t ht
  · have hsymbols := length_encodeList_le_of_subset encodeString (SymbolTable.ofList names).nodup
      fun name hname => SymbolTable.mem_names_ofList.1 hname
    rw [← hnames] at hsymbols
    have hlengths := Nat.add_le_add hsymbols (Nat.add_le_add hfacts.2
      (Nat.add_le_add hrules.2 (Nat.add_le_add_right hchecks.2 more.length)))
    rw [hcontext] at hlengths ⊢
    simp only [encodeBlock, List.append_assoc, List.length_append]
    exact Nat.add_le_add_left hlengths _

end Wire

namespace Block

/-- What is read as a block may be read, and it can be written in as many bytes or fewer. -/
theorem mayBeRead_of_ofBytes {bytes : List UInt8} {block : Block} (h : ofBytes bytes = .ok block) :
    block.MayBeRead ∧ (∀ t ∈ block.terms, t.Ordered) ∧ block.toBytes.length ≤ bytes.length := by
  rw [ofBytes] at h
  split at h
  case h_1 => cases h
  case h_2 version _ hversion =>
    split at h
    case isTrue => cases h
    case isFalse hsupported =>
      split at h
      case h_1 => cases h
      case h_2 read rest hread =>
        split at h
        case h_1 => cases h
        case h_2 hvalidate =>
          cases h
          obtain ⟨_, rfl, hordered, hlength, more, rfl⟩ := Wire.takes_block bytes block rest hread
          have hwidth : (Wire.encodeWord32 block.version).length < Wire.maxLength := by
            rw [Wire.length_encodeWord32]
            decide
          rw [List.append_assoc, (Wire.reads_word32 block.version).2 hwidth] at hversion
          cases hversion
          refine ⟨mayBeRead_iff.2 ⟨hsupported, hvalidate⟩, hordered, ?_⟩
          rw [List.length_append]
          exact Nat.le_add_right_of_le hlength

/-- Where a block of a supported version may not be read, it has one fault, which is reported. -/
theorem exists_fault_of_not_mayBeRead {block : Block} (hordered : ∀ t ∈ block.terms, t.Ordered)
    (hlength : block.toBytes.length < Wire.maxLength) (hversion : block.version ≤ currentVersion)
    (h : ¬block.MayBeRead) :
    ∃ fault, (∀ e, block.HasFault e ↔ e = fault) ∧
      ofBytes block.toBytes = .error (.term fault) := by
  have hsupported : ¬currentVersion < block.version := UInt32.not_lt.2 hversion
  rw [ofBytes_toBytes hordered hlength, if_neg hsupported]
  rw [mayBeRead_iff] at h
  cases hvalidate : block.validate with
  | ok => exact absurd ⟨hsupported, hvalidate⟩ h
  | error fault =>
    refine ⟨fault, fun e => ?_, rfl⟩
    rw [← validate_eq_error_iff, hvalidate, Except.error.injEq, eq_comm]

/-- A block is read from its bytes exactly if it may be; otherwise its version or its first fault is
    reported. What is read from any bytes may be read, and its own bytes are those that it is read
    from and written to again. -/
theorem codec_exact :
    (∀ block : Block, (∀ t ∈ block.terms, t.Ordered) → block.toBytes.length < Wire.maxLength →
      (ofBytes block.toBytes = .ok block ↔ block.MayBeRead) ∧
        (2 < block.version →
          ofBytes block.toBytes = .error (.format (.version block.version))) ∧
        (block.version ≤ 2 → ¬block.MayBeRead →
          ∃ fault, (∀ e, block.HasFault e ↔ e = fault) ∧
            ofBytes block.toBytes = .error (.term fault))) ∧
      ∀ (bytes : List UInt8) (block : Block), bytes.length < Wire.maxLength →
        ofBytes bytes = .ok block →
          block.MayBeRead ∧ (∀ t ∈ block.terms, t.Ordered) ∧
            ofBytes block.toBytes = .ok block ∧
              ∀ again, ofBytes block.toBytes = .ok again → again.toBytes = block.toBytes := by
  constructor
  · intro block hordered hlength
    refine ⟨?_, fun hnew => ?_, exists_fault_of_not_mayBeRead hordered hlength⟩
    · rw [ofBytes_toBytes_eq_ok_iff hordered hlength]
      exact and_iff_left rfl
    · rw [ofBytes_toBytes hordered hlength]
      exact if_pos hnew
  · intro bytes block hlength hread
    obtain ⟨hmay, hordered, hshorter⟩ := mayBeRead_of_ofBytes hread
    have hreads (again : Block) :
        ofBytes block.toBytes = .ok again ↔ block.MayBeRead ∧ again = block :=
      ofBytes_toBytes_eq_ok_iff hordered (Nat.lt_of_le_of_lt hshorter hlength)
    refine ⟨hmay, hordered, (hreads block).2 ⟨hmay, rfl⟩, fun again hagain => ?_⟩
    rw [((hreads again).1 hagain).2]

/-- A block with a fact about a set of two kinds. -/
def mixedBlock : Block where
  symbols := .ofList ["note"]
  facts := [⟨7, [.set [.integer 1, .bool true]]⟩]
  rules := []
  checks := []
  context := none
  version := currentVersion

/-- A payload in which a string and an element of a set occur twice, the elements are not in order,
    and a byte follows the block. -/
def untidyBytes : List UInt8 :=
  Wire.encodeWord32 2 ++ Wire.encodeList Wire.encodeString ["note", "note"] ++
    Wire.encodeList Wire.encodePredicate [⟨7, [.set [.integer 2, .integer 1, .integer 2]]⟩] ++
    Wire.encodeList Wire.encodeRule [] ++ Wire.encodeList Wire.encodeCheck [] ++
    Wire.encodeOption Wire.encodeString none ++ [0]

def tidyBlock : Block := { mixedBlock with facts := [⟨7, [.set [.integer 1, .integer 2]]⟩] }

theorem untidyBytes_codec_exact :
    (ofBytes mixedBlock.toBytes = .error (.term .mixedSet) ∧
      ofBytes { mixedBlock with version := 3 }.toBytes = .error (.format (.version 3))) ∧
      untidyBytes ≠ tidyBlock.toBytes ∧ ofBytes untidyBytes = .ok tidyBlock ∧
        tidyBlock.MayBeRead ∧ ofBytes tidyBlock.toBytes = .ok tidyBlock := by
  have hordered : ∀ t ∈ mixedBlock.terms, t.Ordered := by
    intro t ht
    obtain rfl : t = .set [.integer 1, .bool true] := List.mem_singleton.1 ht
    exact ⟨by decide, trivial, trivial, trivial⟩
  have hmixed : mixedBlock.HasFault .mixedSet := validate_eq_error_iff.1 (by decide)
  have hnot : ¬mixedBlock.MayBeRead := fun h => absurd (mayBeRead_iff.1 h).2 (by decide)
  have huntidy : ofBytes untidyBytes = .ok tidyBlock := by decide +kernel
  obtain ⟨-, -, hfault⟩ := codec_exact.1 mixedBlock hordered (by decide +kernel)
  obtain ⟨fault, hone, hreported⟩ := hfault (by decide) hnot
  obtain rfl := (hone .mixedSet).1 hmixed
  obtain ⟨-, hnew, -⟩ :=
    codec_exact.1 { mixedBlock with version := 3 } hordered (by decide +kernel)
  obtain ⟨hmay, -, htidy, -⟩ := codec_exact.2 untidyBytes tidyBlock (by decide +kernel) huntidy
  exact ⟨⟨hreported, hnew (by decide)⟩, by decide +kernel, huntidy, hmay, htidy⟩

end Block

end Warrant
