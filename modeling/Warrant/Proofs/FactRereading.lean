import Warrant.Proofs.Rereading
import Warrant.Proofs.Storable

namespace Warrant.Grammar

open Warrant.Grammar.Parser

variable {symbols : SymbolTable}

/-- What is not plain is written with an escape that is not read. -/
theorem exists_escape_of_not_plain {c : Char} (hc : ¬Plain c) :
    ∃ d more, Text.escapeChar '"' c = '\\' :: d :: more ∧ unescape? d = none := by
  have hnumbered : ∃ d more, Text.numbered c = '\\' :: d :: more ∧ unescape? d = none :=
    ⟨'u', _, rfl, rfl⟩
  rw [Plain, not_or] at hc
  obtain ⟨hread, hsame⟩ := hc
  by_cases hzero : c = '\x00'
  · exact ⟨'0', [], by rw [hzero]; rfl, rfl⟩
  by_cases hreturn : c = '\r'
  · exact ⟨'r', [], by rw [hreturn]; rfl, rfl⟩
  simp only [List.mem_cons, List.not_mem_nil, or_false, not_or] at hread
  obtain ⟨hslash, hquote, hnewline, htab⟩ := hread
  simp only [Text.escapeChar, hzero, hreturn, hslash, hquote, hnewline, htab, or_self,
    if_false] at hsame ⊢
  by_cases hextender : Unicode.isExtender c = true
  · rw [if_pos hextender]
    exact hnumbered
  by_cases hprintable : Unicode.isPrintable c = true
  · rw [if_neg hextender, if_pos hprintable] at hsame
    exact absurd rfl hsame
  · rw [if_neg hextender, if_neg hprintable]
    exact hnumbered

/-- One escape that is not read spoils all characters of a string. -/
theorem stringChars_of_not_plain {chars : List Char} (h : ∃ c ∈ chars, ¬Plain c)
    (rest : List Char) :
    stringChars (chars.flatMap (Text.escapeChar '"') ++ rest) = none := by
  induction chars with
  | nil =>
    obtain ⟨c, hc, -⟩ := h
    cases hc
  | cons c cs ih =>
    rw [List.flatMap_cons, List.append_assoc]
    by_cases hc : Plain c
    · rw [stringChars_escapeChar hc, ih (by simpa [hc] using h)]
      rfl
    · obtain ⟨d, more, hescape, hunknown⟩ := exists_escape_of_not_plain hc
      rw [hescape, List.cons_append, List.cons_append, stringChars, hunknown]
      rfl

/-- No character is written with a quote that stands first. -/
theorem head_escapeChar_ne (c : Char) (rest : List Char) :
    (Text.escapeChar '"' c ++ rest).head? ≠ some '"' := by
  by_cases hc : Plain c
  · rcases hc with hc | hc
    · obtain ⟨d, hescape, -⟩ := exists_unescape_of_mem hc
      rw [hescape]
      simp
    · rw [hc]
      rintro ⟨⟩
      exact absurd hc (by decide)
  · obtain ⟨d, more, hescape, -⟩ := exists_escape_of_not_plain hc
    rw [hescape]
    simp

/-- A string with a character that is not plain is not read from what is written of it, as it is
    taken for an empty one that does not end. -/
theorem stringLiteral_mismatches {chars : List Char} (h : ∃ c ∈ chars, ¬Plain c)
    (rest : List Char) : stringLiteral.Mismatches (Text.quoteChars '"' chars ++ rest) := by
  obtain ⟨c, cs, rfl⟩ : ∃ c cs, chars = c :: cs := by
    obtain ⟨c, hc, -⟩ := h
    exact List.exists_cons_of_ne_nil (List.ne_nil_of_mem hc)
  have hnone := stringChars_of_not_plain h ('"' :: rest)
  have hhead : ((c :: cs).flatMap (Text.escapeChar '"') ++ '"' :: rest).head? ≠ some '"' := by
    rw [List.flatMap_cons, List.append_assoc]
    exact head_escapeChar_ne c _
  rw [quoteChars_append]
  generalize (c :: cs).flatMap (Text.escapeChar '"') ++ '"' :: rest = text at hnone hhead
  have hopen : quote ('"' :: text) = .ok () text := rfl
  have hquote : quote text = .mismatch .quote text := by
    rw [quote]
    rintro left rfl
    exact hhead rfl
  refine ⟨.quote, text, ?_⟩
  rw [stringLiteral, bind_of_ok hopen]
  dsimp only [Bind.bind]
  rw [hnone]
  dsimp only
  rw [hquote]

/-- Whether a parser leaves a text to others whatever comes before and after it. The text begins
    with a sign of strings, dates or sets. -/
def Refuses (p : Parser Source.Term) (text : List Char) : Prop :=
  (∃ c cs, text = c :: cs ∧ c ∈ ['"', 'd', '[']) ∧
    ∀ pad rest, (∀ c ∈ pad, isSpacing c = true) → p.Mismatches (pad ++ (text ++ rest))

theorem isSpacing_of_opening {c : Char} (hc : c ∈ ['"', 'd', '[']) : isSpacing c = false := by
  have hchars : ∀ c ∈ ['"', 'd', '['], isSpacing c = false := by decide
  exact hchars c hc

/-- What mismatches after spacing is refused. -/
theorem refuses_of_mismatches {next : Unit → Parser Source.Term} {text : List Char} {c : Char}
    {cs : List Char} (htext : text = c :: cs) (hc : c ∈ ['"', 'd', '['])
    (h : ∀ rest, (next ()).Mismatches (c :: (cs ++ rest))) : Refuses (spacing >>= next) text := by
  refine ⟨⟨c, cs, htext, hc⟩, fun pad rest hpad => ?_⟩
  have hhead : ∀ x ∈ (c :: (cs ++ rest)).head?, isSpacing x = false := by
    simpa using isSpacing_of_opening hc
  rw [htext, Mismatches, List.cons_append, bind_of_ok (spacing_append hpad hhead)]
  exact h rest

/-- A string that is not plain and a date in a year of more than four digits are not read from
    what is written of them. -/
theorem scalar_mismatches_render {t : Term} (h : ¬(t.resolve symbols).PlainScalar) :
    ∃ c cs, (t.render symbols).toList = c :: cs ∧ c ∈ ['"', 'd'] ∧
      ∀ rest, scalar.Mismatches (c :: (cs ++ rest)) := by
  cases t with
  | str s =>
    have hchars : ∃ c ∈ (symbols.name s).toList, ¬Plain c := by
      by_contra hnone
      exact h fun c hc => by_contra fun hplain => hnone ⟨c, hc, hplain⟩
    refine ⟨'"', _, TermOf.toList_render_str s, by decide, fun rest => ?_⟩
    rw [Mismatches, scalar_quote]
    exact orElse_mismatches_iff.2 ⟨stringLiteral_mismatches hchars rest,
      literal_mismatches (by decide) (by decide) (by decide) _⟩
  | date d =>
    have hlate : Text.Calendar.lastSecond < d.toNat := not_le.1 h
    refine ⟨'d', "ate(".toList ++ (toString d.toNat).toList ++ [')'], ?_, by decide, fun rest =>
      scalar_mismatches (by decide) _⟩
    rw [TermOf.render, renderDate, Text.Calendar.format?, if_pos hlate]
    simp
  | _ => exact absurd trivial h

/-- The items of a list are read up to the first that is refused, and the list does not end
    there. -/
theorem exists_separated0_of_refused {p : Parser Source.Term} {good : Term → Prop} {ts : List Term}
    (hgood : ∀ t ∈ ts, good t → p.Reads Ends (t.render symbols).toList (t.resolve symbols))
    (hbad : ∀ t ∈ ts, ¬good t → Refuses p (t.render symbols).toList) (h : ∃ t ∈ ts, ¬good t)
    (rest : List Char) :
    ∃ values left, separated0 (sign ",") p
        (", ".toList.intercalate (ts.map fun t => (t.render symbols).toList) ++ rest) =
          .ok values left ∧
      ∀ c ∈ [')', ']'], (left.dropWhile isSpacing).head? ≠ some c := by
  obtain ⟨t, ht, hfault⟩ := h
  obtain ⟨-, before, t, after, rfl, hbefore, hfault⟩ :
      ∃ e, FirstFault (fun t (_ : Unit) => ¬good t) ts e :=
    exists_firstFault_iff.2 ⟨t, ht, (), hfault⟩
  obtain ⟨⟨c, cs, htext, hc⟩, hrefuses⟩ := hbad t (by simp) hfault
  have hreads (x : Term) (hx : x ∈ before) :=
    hgood x (List.mem_append_left _ hx) (not_not.1 (hbefore x hx ()))
  have hafter (rest : List Char) : Ends (", ".toList ++ rest) := by simp [Ends, isSpacing]
  have hglue (rest : List Char) : sign "," (", ".toList ++ rest) = .ok () (' ' :: rest) := rfl
  obtain ⟨left, hleft, hstart⟩ := separated0_stops hafter hglue hreads (by decide) hrefuses
  rw [List.map_append, List.map_cons]
  refine ⟨_, left, hleft, fun close hclose => ?_⟩
  -- what is left begins with a comma, or with what the refused item begins with
  obtain ⟨d, ds, rfl, hd⟩ : ∃ d ds, left = d :: ds ∧ d ∈ ['"', 'd', '[', ','] := by
    rcases hstart with ⟨more, rfl⟩ | ⟨more, rfl⟩
    · rw [htext]
      exact ⟨c, cs ++ more, rfl, List.mem_append_left [','] hc⟩
    · exact ⟨',', ' ' :: more, rfl, by decide⟩
  have hmarks : ∀ d ∈ ['"', 'd', '[', ','], isSpacing d = false ∧ ∀ c ∈ [')', ']'], d ≠ c := by
    decide
  obtain ⟨hspacing, hne⟩ := hmarks d hd
  simpa [hspacing] using hne close hclose

/-- A set is not read from what is written of it if an element of it is not. -/
theorem set_mismatches_render {elements : List Term}
    (hread : (TermOf.resolve symbols (.set elements)).MayBeRead)
    (h : ∃ e ∈ elements, ¬(e.resolve symbols).PlainScalar) (rest : List Char) :
    set.Mismatches ((TermOf.render symbols (.set elements)).toList ++ rest) := by
  rw [TermOf.resolve_set] at hread
  have hkind (e : Term) (he : e ∈ elements) : e.kind ≠ .var ∧ e.kind ≠ .set := by
    have hscalar := (hread _ rfl).1 (e.resolve symbols)
      (SortedList.mem_ofList.2 (List.mem_map_of_mem he))
    rwa [TermOf.kind_resolve] at hscalar
  have hbad (e : Term) (he : ¬(e.resolve symbols).PlainScalar) :
      Refuses (do spacing; scalar) (e.render symbols).toList := by
    obtain ⟨c, cs, htext, hc, hscalar⟩ := scalar_mismatches_render he
    exact refuses_of_mismatches htext (List.mem_append_left ['['] hc) hscalar
  obtain ⟨values, left, hitems, hleft⟩ := exists_separated0_of_refused
    (fun e he => element_render (hkind e he).1 (hkind e he).2) (fun e _ => hbad e) h (']' :: rest)
  have hclose : (sign "]").Mismatches left := sign_mismatches (by rfl) (hleft ']' (by decide))
  have hopen (text : List Char) : sign "[" ('[' :: text) = .ok () text := rfl
  have helements : (do
      sign "["
      let items ← separated0 (sign ",") (do spacing; scalar)
      sign "]"
      return items : Parser (List Source.Term)).Mismatches
        ('[' :: (", ".toList.intercalate (elements.map fun e => (e.render symbols).toList) ++
          ']' :: rest)) := by
    rw [Mismatches, bind_of_ok (hopen _), bind_of_ok hitems]
    exact hclose.bind
  obtain ⟨fault, stop, helements⟩ := helements
  rw [TermOf.toList_render_set, List.cons_append, List.append_assoc, List.singleton_append]
  exact ⟨fault, stop, by rw [set, helements]⟩

/-- A term that is not plain is not read from what is written of it. -/
theorem refuses_render {t : Term} (hread : (t.resolve symbols).MayBeRead)
    (h : ¬(t.resolve symbols).Plain) : Refuses term (t.render symbols).toList := by
  by_cases hscalar : (t.resolve symbols).PlainScalar
  · obtain ⟨elements, rfl⟩ : ∃ elements, t = .set elements := by
      cases t with
      | set elements => exact ⟨elements, rfl⟩
      | _ =>
        refine absurd ⟨hscalar, ?_⟩ h
        rintro _ ⟨⟩
    have helements : ∃ e ∈ elements, ¬(e.resolve symbols).PlainScalar := by
      by_contra hnone
      refine h ⟨hscalar, ?_⟩
      rw [TermOf.resolve_set]
      rintro _ ⟨⟩ e he
      obtain ⟨x, hx, rfl⟩ := List.mem_map.1 (SortedList.mem_ofList.1 he)
      exact by_contra fun hplain => hnone ⟨x, hx, hplain⟩
    have hset := set_mismatches_render hread helements
    rw [TermOf.toList_render_set] at hset
    exact refuses_of_mismatches (TermOf.toList_render_set elements) (by decide) fun rest =>
      orElse_mismatches_iff.2 ⟨scalar_mismatches (by decide) _, hset rest⟩
  · obtain ⟨c, cs, htext, hc, hmismatch⟩ := scalar_mismatches_render hscalar
    have hopens : c ∈ ['"', 'd', '['] := List.mem_append_left ['['] hc
    have hne : c ≠ '[' := by
      rintro rfl
      exact absurd hc (by decide)
    exact refuses_of_mismatches htext hopens fun rest => orElse_mismatches_iff.2
      ⟨hmismatch rest, set_mismatches (isSpacing_of_opening hopens) hne⟩

/-- A predicate is not read from what is written of it if an argument of it is not. -/
theorem predicate_mismatches_render {p : Predicate} (hname : IsName (symbols.name p.name))
    (hgood : ∀ t ∈ p.terms, (t.resolve symbols).Plain → (t.resolve symbols).Writable)
    (hread : ∀ t ∈ p.terms, (t.resolve symbols).MayBeRead)
    (h : ∃ t ∈ p.terms, ¬(t.resolve symbols).Plain) :
    predicate.Mismatches (p.render symbols).toList := by
  obtain ⟨values, left, hitems, hleft⟩ := exists_separated0_of_refused
    (fun t ht hplain => term_render (hgood t ht hplain)) (fun t ht => refuses_render (hread t ht))
    h [')']
  have hclose : (sign ")").Mismatches left := sign_mismatches (by rfl) (hleft ')' (by decide))
  have hopen (text : List Char) : sign "(" ('(' :: text) = .ok () text := rfl
  have hpass := spacing_append (List.forall_mem_nil _) (hname.head_eq_false
    ('(' :: (", ".toList.intercalate (p.terms.map fun t => (t.render symbols).toList) ++ [')'])))
  rw [List.nil_append] at hpass
  rw [toList_render_predicate, Mismatches, predicate, bind_of_ok hpass,
    bind_of_ok (name_append hname (by simp [isNameChar])),
    bind_of_ok (hopen _), bind_of_ok hitems]
  exact hclose.bind

/-- What is known of a fact that is read. -/
theorem of_readFact_eq_ok {text : String} {f : Source.Fact} (h : readFact text = .ok f) :
    IsName f.name ∧ f.argVariables = [] ∧ ∀ t ∈ f.terms,
      t.isGround = true ∧ t.Ordered ∧ t.MayBeRead ∧ (t.Plain → t.Writable) := by
  obtain ⟨rest, hread, -⟩ := readWhole_eq_ok_iff.1 h
  obtain ⟨hpredicate, hvariables⟩ := fact_eq_ok_iff.1 hread
  obtain ⟨-, -, hname, -⟩ := predicate_eq_ok_iff.1 hpredicate
  refine ⟨hname, hvariables, fun t ht => ?_⟩
  have hterm := parses_fact_of parses_term_writable _ _ _ hread t ht
  exact ⟨hterm.2.1.isGround (List.filterMap_eq_nil_iff.1 hvariables t ht), hterm⟩

/-- A fact that is read is read from what is written of it where all its arguments are plain, and
    nothing is read from that where one is not. -/
theorem readFact_render {text : String} {p : Predicate}
    (h : readFact text = .ok (p.resolve symbols)) :
    ((∀ t ∈ (p.resolve symbols).terms, t.Plain) →
      readFact (p.render symbols) = .ok (p.resolve symbols)) ∧
    ((∃ t ∈ (p.resolve symbols).terms, ¬t.Plain) →
      ∃ e, readFact (p.render symbols) = .error e) := by
  obtain ⟨hname, hvariables, hterms⟩ := of_readFact_eq_ok h
  refine ⟨fun hplain => ?_, fun hsome => ?_⟩
  · have hwritable : (p.resolve symbols).Writable :=
      ⟨hname, fun t ht => (hterms t ht).2.2.2 (hplain t ht)⟩
    have hread := predicate_render hwritable [] [] (List.forall_mem_nil _) trivial
    rw [List.nil_append, List.append_nil] at hread
    exact readWhole_eq_ok_iff.2 ⟨[], fact_eq_ok_iff.2 ⟨hread, hvariables⟩, rfl⟩
  · rw [PredicateOf.resolve_eq] at hname hterms hsome
    rw [List.forall_mem_map] at hterms
    obtain ⟨_, hmem, hbad⟩ := hsome
    obtain ⟨t, ht, rfl⟩ := List.mem_map.1 hmem
    obtain ⟨fault, rest, hmismatch⟩ := predicate_mismatches_render hname
      (fun t ht => (hterms t ht).2.2.2) (fun t ht => (hterms t ht).2.2.1) ⟨t, ht, hbad⟩
    exact ⟨.expected fault (String.ofList rest), by rw [readFact, readWhole, fact, hmismatch]⟩

/-- A fact that is read and interned in any table is read again from what is then printed of it if
    and only if its strings need no escapes but those that are read and its dates lie before the
    year 10000. Otherwise what is printed is refused. -/
theorem fact_reread {text : String} {f : Source.Fact} (h : readFact text = .ok f)
    (symbols : SymbolTable)
    (hsize : ((PredicateOf.intern f).run symbols).2.size ≤ UInt64.size) :
    let printed := PredicateOf.render ((PredicateOf.intern f).run symbols).2
      ((PredicateOf.intern f).run symbols).1
    ((∀ t ∈ f.terms, t.Plain) → readFact printed = .ok f) ∧
      ((∃ t ∈ f.terms, ¬t.Plain) → ∃ e, readFact printed = .error e) := by
  obtain ⟨-, -, hterms⟩ := of_readFact_eq_ok h
  have hresolve := PredicateOf.resolve_intern hsize fun t ht =>
    ⟨(hterms t ht).1, (hterms t ht).2.1⟩
  rw [← hresolve] at h
  have hread := readFact_render h
  rw [hresolve] at hread
  exact hread

/-- A fact with a line end and a set, the elements of which a table has in another order. -/
def letterFact : Source.Fact := ⟨"f", [.str "\n", .set [.str "a", .str "b"]]⟩

theorem letterFact_reread :
    readFact "f(\"\n\", [#b, #a])" = .ok letterFact ∧
      readFact (PredicateOf.render ((PredicateOf.intern letterFact).run (.ofList ["b"])).2
        ((PredicateOf.intern letterFact).run (.ofList ["b"])).1) = .ok letterFact := by
  have hread : readFact "f(\"\n\", [#b, #a])" = .ok letterFact := by decide +kernel
  refine ⟨hread, (fact_reread hread (.ofList ["b"]) (by decide +kernel)).1 fun t ht => ?_⟩
  have hletter {s : String} (hs : s ∈ ["\n", "a", "b"]) : (TermOf.str s).PlainScalar := by
    have hchars : ∀ s ∈ ["\n", "a", "b"], ∀ c ∈ s.toList, c = '\n' ∨ c = 'a' ∨ c = 'b' := by
      decide
    intro c hc
    rcases hchars s hs c hc with rfl | rfl | rfl
    · exact .inl (by decide)
    · exact .inr rfl
    · exact .inr rfl
  simp only [letterFact, List.mem_cons, List.not_mem_nil, or_false] at ht
  rcases ht with rfl | rfl
  · refine ⟨hletter (by decide), ?_⟩
    rintro _ ⟨⟩
  · refine ⟨trivial, ?_⟩
    rintro _ ⟨⟩ e he
    simp only [List.mem_cons, List.not_mem_nil, or_false] at he
    rcases he with rfl | rfl <;> exact hletter (by decide)

/-- A carriage return is printed with an escape that is not read, and the last second of the year
    9999 an hour to the west of universal time as its number. -/
theorem carriageReturn_not_reread :
    let returning : Source.Fact := ⟨"f", [.str "\r"]⟩
    let late : Source.Fact := ⟨"f", [.date 253402304399]⟩
    let printed (f : Source.Fact) := PredicateOf.render ((PredicateOf.intern f).run .standard).2
      ((PredicateOf.intern f).run .standard).1
    readFact "f(\"\r\")" = .ok returning ∧ printed returning = "f(\"\\r\")" ∧
      (∃ e, readFact "f(\"\\r\")" = .error e) ∧
      readFact "f(9999-12-31T23:59:59-01:00)" = .ok late ∧
      printed late = "f(date(253402304399))" ∧
      ∃ e, readFact "f(date(253402304399))" = .error e := by
  refine ⟨by decide +kernel, by decide +kernel, ⟨.expected .sign "\"\\r\")", by decide +kernel⟩,
    by decide +kernel, by decide +kernel, ⟨.expected .sign "date(253402304399))", by decide +kernel⟩⟩

end Warrant.Grammar
