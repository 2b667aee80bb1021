import Mathlib.Data.List.DropRight
import Warrant.Proofs.Infix

namespace Warrant.Grammar

open Warrant.Grammar.Parser

variable {text rest : List Char}

/-- Whether the arguments of a predicate come next in a text. -/
def Arguments (text : List Char) (terms : List Source.Term) (rest : List Char) : Prop :=
  ∃ items close, text.dropWhile isSpacing = '(' :: items ∧
    separated0 (sign ",") term items = .ok terms close ∧ close.dropWhile isSpacing = ')' :: rest

theorem Arguments.head_dropWhile {terms : List Source.Term} (h : Arguments text terms rest) :
    (text.dropWhile isSpacing).head? = some '(' := by
  obtain ⟨items, close, hopen, -⟩ := h
  rw [hopen, List.head?_cons]

theorem dropWhile_chars {chars : List Char} (hchars : ∀ c ∈ chars, isNameChar c = true)
    (hne : chars ≠ []) (after : List Char) :
    (chars ++ after).dropWhile isSpacing = chars ++ after := by
  cases chars with
  | nil => exact absurd rfl hne
  | cons c cs => simp [isSpacing_of_isNameChar (hchars c List.mem_cons_self)]

theorem opener?_of_isNameChar {c : Char} (hc : isNameChar c = true) : opener? c = none := by
  unfold opener?
  split <;> first | rfl | exact absurd hc (by decide)

/-! What comes before arguments is spacing or characters of a name. -/

section

variable {chars after : List Char} (hafter : (after.dropWhile isSpacing).head? = some '(')
include hafter

theorem head_eq_false_of_dropWhile {p : Char → Bool}
    (hp : ∀ c ∈ ['(', ' ', '\t', '\r', '\n'], p c = false) : ∀ c ∈ after.head?, p c = false := by
  cases after with
  | nil => exact nofun
  | cons c cs =>
    rintro d ⟨⟩
    by_cases hc : isSpacing c = true
    · exact hp c (List.mem_cons_of_mem _ (mem_of_isSpacing hc))
    · rw [List.dropWhile_cons_of_neg hc, List.head?_cons] at hafter
      exact hp c (by simp [Option.some.inj hafter])

variable (hchars : ∀ c ∈ chars, isNameChar c = true)
include hchars

/-- The characters go on, or the arguments begin. -/
theorem head_chars : ∀ c ∈ ((chars ++ after).dropWhile isSpacing).head?,
    c = '(' ∨ isNameChar c = true := by
  intro c hc
  by_cases hne : chars = []
  · subst hne
    rw [List.nil_append, hafter] at hc
    exact .inl (Option.some.inj hc).symm
  · rw [dropWhile_chars hchars hne, List.head?_append_of_ne_nil _ hne] at hc
    exact .inr (hchars c (List.mem_of_mem_head? hc))

/-- The characters begin with a word, or it is missing. -/
theorem sign_chars (mark : String) {m : Char} {ms : List Char} (hmark : mark.toList = m :: ms)
    (hword : ∀ c ∈ mark.toList, isNameChar c = true)
    (htext : text.dropWhile isSpacing = (chars ++ after).dropWhile isSpacing) :
    (sign mark).Mismatches text ∨
      ∃ tail, chars = mark.toList ++ tail ∧ sign mark text = .ok () (tail ++ after) := by
  by_cases hread : ∃ left, sign mark text = .ok () left
  · obtain ⟨left, hread⟩ := hread
    have hsplit := sign_eq_ok_iff.1 hread
    rw [htext] at hsplit
    have hne : chars ≠ [] := by
      rintro rfl
      rw [List.nil_append, hmark] at hsplit
      rw [hsplit] at hafter
      cases hafter
      rw [hmark] at hword
      exact absurd (hword '(' List.mem_cons_self) (by decide)
    rw [dropWhile_chars hchars hne] at hsplit
    -- a name is as long as it can be, so the word cannot reach beyond it
    have hstop := head_eq_false_of_dropWhile hafter (p := isNameChar) (by decide)
    have hrun := takeWhile_append hstop hchars
    rw [hsplit, List.takeWhile_append_of_pos hword] at hrun
    refine .inr ⟨left.takeWhile isNameChar, hrun.symm, ?_⟩
    have hafter' := dropWhile_append hstop hchars
    rw [hsplit, List.dropWhile_append_of_pos hword] at hafter'
    rw [hread, ← hafter', List.takeWhile_append_dropWhile]
  · rw [sign, exact] at hread
    split at hread
    case isTrue => exact absurd ⟨_, rfl⟩ hread
    case isFalse hstart => exact .inl ⟨.sign, _, by rw [sign, exact, if_neg hstart]⟩

end

/-- A predicate is a name with arguments after it. -/
theorem predicate_eq_ok_iff {p : Source.Predicate} :
    predicate text = .ok p rest ↔ ∃ after, text.dropWhile isSpacing = p.name.toList ++ after ∧
      IsName p.name ∧ Arguments after p.terms rest := by
  constructor
  · intro h
    obtain ⟨_, between, hpass, h⟩ := exists_of_bind_eq_ok h
    cases hpass
    obtain ⟨head, after, hname, h⟩ := exists_of_bind_eq_ok h
    obtain ⟨htext, hname, -⟩ := name_eq_ok_iff.1 hname
    obtain ⟨_, items, hopen, h⟩ := exists_of_bind_eq_ok h
    obtain ⟨terms, close, hterms, h⟩ := exists_of_bind_eq_ok h
    obtain ⟨_, left, hclose, h⟩ := exists_of_bind_eq_ok h
    cases h
    exact ⟨after, htext, hname, items, close, sign_eq_ok_iff.1 hopen, hterms,
      sign_eq_ok_iff.1 hclose⟩
  · rintro ⟨after, htext, hname, hargs⟩
    have hstop := head_eq_false_of_dropWhile hargs.head_dropWhile (p := isNameChar) (by decide)
    obtain ⟨items, close, hopen, hterms, hclose⟩ := hargs
    refine (bind_of_ok rfl).trans ?_
    rw [htext, bind_of_ok (name_append hname hstop), bind_of_ok (sign_eq_ok_iff.2 hopen),
      bind_of_ok hterms, bind_of_ok (sign_eq_ok_iff.2 hclose)]
    rfl

theorem queries_mismatches_iff :
    queries.Mismatches text ↔ predicate.Mismatches text ∧ expression.Mismatches text := by
  have hbody : body.Mismatches text ↔ predicate.Mismatches text ∧ expression.Mismatches text := by
    refine (map_mismatches_iff _).trans (separated1_mismatches_iff.trans ?_)
    exact orElse_mismatches_iff.trans (and_congr (map_mismatches_iff _) (map_mismatches_iff _))
  exact separated1_mismatches_iff.trans ((map_mismatches_iff _).trans hbody)

theorem predicate_mismatches_paren {items : List Char}
    (h : text.dropWhile isSpacing = '(' :: items) : predicate.Mismatches text := by
  rw [← List.takeWhile_append_dropWhile (p := isSpacing) (l := text), h]
  exact predicate_mismatches_of_head (by decide) (by decide) items
    (List.all_eq_true.1 List.all_takeWhile)

theorem term_dropWhile (text : List Char) : term (text.dropWhile isSpacing) = term text := by
  refine bind_congr ?_
  rw [spacing, spacing, List.dropWhile_idempotent]

theorem primary_eq (inner : Parser Source.Expression) (text : List Char) :
    primary inner text = (parens inner).orElse (do return [.value (← term)]) text := by
  have hparens : parens inner (text.dropWhile isSpacing) = parens inner text := by
    refine bind_congr ?_
    rw [sign, sign, List.dropWhile_idempotent]
  change (parens inner).orElse _ (text.dropWhile isSpacing) = _
  rw [Parser.orElse, Parser.orElse, hparens, bind_congr (term_dropWhile text)]

/-- No term begins with one of some marks. -/
theorem head_ne_of_term {t : Source.Term} (h : term text = .ok t rest) :
    ∀ c ∈ [')', '(', '!', ':'], (text.dropWhile isSpacing).head? ≠ some c := by
  intro c hc hhead
  obtain ⟨cs, hcs⟩ := List.head?_eq_some_iff.1 hhead
  have hmismatch := term_mismatches hc cs
  rw [← hcs, Mismatches, term_dropWhile] at hmismatch
  exact not_mismatches_of_ok h hmismatch

/-- Without parentheses and negation, an expression that stops after a term is the term. -/
theorem leveled_of_term {level : Nat} (hparen : (text.dropWhile isSpacing).head? ≠ some '(')
    (hbang : (text.dropWhile isSpacing).head? ≠ some '!')
    (hhalts : ∀ t left, term text = .ok t left → Halts level left)
    (inner : Parser Source.Expression) :
    leveled inner level text = (do return [.value (← term)] : Parser Source.Expression) text := by
  have hparens : (parens inner).Mismatches text := (sign_mismatches (m := '(') rfl hparen).bind
  have hprimary := (primary_eq inner text).trans hparens.orElse_eq
  rw [leveled_eq_primary (sign_mismatches (m := '!') rfl hbang) ?_, hprimary]
  intro ops left hread
  rw [hprimary] at hread
  obtain ⟨t, between, hterm, hpure⟩ := exists_of_bind_eq_ok hread
  cases hpure
  exact (hhalts t left hterm).concludes inner

theorem leveled_mismatches {c : Char} {items : List Char}
    (h : text.dropWhile isSpacing = c :: items) (hparen : c ≠ '(') (hbang : c ≠ '!')
    (hterm : term.Mismatches (c :: items)) (inner : Parser Source.Expression) (level : Nat) :
    (leveled inner level).Mismatches text := by
  rw [← h, Mismatches, term_dropWhile] at hterm
  rw [Mismatches, leveled_of_term (by simpa [h] using hparen) (by simpa [h] using hbang)]
  · exact Mismatches.bind hterm
  · exact fun t left hread => absurd hterm (not_mismatches_of_ok hread)

section

variable {items : List Char} (h : text.dropWhile isSpacing = '(' :: items)
  {inner : Parser Source.Expression}
include h

theorem leveled_of_parens {level : Nat} {ops : Source.Expression}
    (hread : parens inner text = .ok ops rest) (hends : Concludes inner level rest) :
    leveled inner level text = .ok ops rest := by
  have hprimary : primary inner text = .ok ops rest :=
    (primary_eq inner text).trans (orElse_of_ok hread)
  rw [leveled_eq_primary (sign_mismatches (m := '!') rfl (by simp [h])) ?_, hprimary]
  intro ops' left hread'
  rw [hprimary] at hread'
  cases hread'
  exact hends

theorem leveled_mismatches_of_parens (hparens : (parens inner).Mismatches text) (level : Nat) :
    (leveled inner level).Mismatches text := by
  have hterm : term.Mismatches text := by
    rw [Mismatches, ← term_dropWhile, h]
    exact term_mismatches (by decide) items
  have hprimary : (primary inner).Mismatches text := by
    rw [Mismatches, primary_eq]
    exact orElse_mismatches_iff.2 ⟨hparens, hterm.bind⟩
  rw [Mismatches, leveled_eq_primary (sign_mismatches (m := '!') rfl (by simp [h])) ?_]
  · exact hprimary
  · exact fun ops left hread => absurd hprimary (not_mismatches_of_ok hread)

end

/-- One term in parentheses is an expression, and no other number of terms. -/
theorem parens_arguments {terms : List Source.Term} (h : Arguments text terms rest) (depth : Nat) :
    (terms.length = 1 ∧ ∃ ops, parens (nestedExpression (depth + 1)) text = .ok ops rest) ∨
      terms.length ≠ 1 ∧ (parens (nestedExpression (depth + 1))).Mismatches text := by
  obtain ⟨items, close, hopen, hterms, hclose⟩ := h
  have hsign : sign "(" text = .ok () items := sign_eq_ok_iff.2 hopen
  rcases separated0_cases hterms with ⟨rfl, rfl⟩ | ⟨t, ts, between, rfl, hterm, hothers⟩
  · refine .inr ⟨by simp, ?_⟩
    rw [Mismatches, parens, bind_of_ok hsign]
    exact (leveled_mismatches hclose (by decide) (by decide) (term_mismatches (by decide) rest)
      _ 6).bind
  · have hinner (hhalts : Halts 6 between) :
        nestedExpression (depth + 1) items = .ok [.value t] between := by
      rw [nestedExpression, ← leveled_six]
      refine (leveled_of_term (head_ne_of_term hterm _ (by decide))
        (head_ne_of_term hterm _ (by decide)) ?_ (nestedExpression depth)).trans (bind_of_ok hterm)
      intro t' left hread
      rw [hterm] at hread
      cases hread
      exact hhalts
    rcases hothers with ⟨rfl, rfl⟩ | ⟨hothers, left, hcomma⟩
    · refine .inl ⟨rfl, [.value t] ++ [.unary .parens], ?_⟩
      rw [parens, bind_of_ok hsign, bind_of_ok (hinner (by simp [Halts, hclose, opener?])),
        bind_of_ok (sign_eq_ok_iff.2 hclose)]
      rfl
    · have hnext : between.dropWhile isSpacing = ',' :: left := sign_eq_ok_iff.1 hcomma
      refine .inr ⟨by simpa using hothers, ?_⟩
      rw [Mismatches, parens, bind_of_ok hsign,
        bind_of_ok (hinner (by simp [Halts, hnext, opener?]))]
      exact (sign_mismatches (m := ')') rfl (by simp [hnext])).bind

section

variable {chars after : List Char} (hafter : (after.dropWhile isSpacing).head? = some '(')
  (hchars : ∀ c ∈ chars, isNameChar c = true)
include hafter hchars

theorem halts_chars : Halts 6 (chars ++ after) := by
  intro c hc
  rcases head_chars hafter hchars c hc with rfl | hname
  · exact ⟨by decide, nofun⟩
  · refine ⟨?_, by simp [opener?_of_isNameChar hname]⟩
    rintro rfl
    cases hname

/-- Where the rest of a name begins with a digit, it begins with an integer. -/
theorem scalar_chars {c : Char} {cs : List Char} (h : chars = c :: cs) (hc : c.isDigit = true) :
    (∃ n, scalar (chars ++ after) =
        .ok (.integer n) (chars.dropWhile Unicode.isDigit ++ after)) ∨
      scalar (chars ++ after) = .failure .meaning (chars ++ after) := by
  have hdigits : (chars ++ after).dropWhile Unicode.isDigit =
      chars.dropWhile Unicode.isDigit ++ after :=
    dropWhile_append_left (head_eq_false_of_dropWhile hafter (by decide)) chars
  have hdate : afterDate? (chars ++ after) = none := by
    refine afterDate?_of_dropWhile fun hhyphen => ?_
    obtain ⟨ds, hds⟩ := List.head?_eq_some_iff.1 hhyphen
    have hleft : ∀ d ∈ chars.dropWhile Unicode.isDigit, isNameChar d = true :=
      fun d hd => hchars d ((List.dropWhile_suffix _).subset hd)
    have hnext := head_chars hafter hleft '-' (by rw [← hdigits, hds]; rfl)
    exact absurd hnext (by decide)
  rw [← hdigits]
  rw [h, List.cons_append] at hdate ⊢
  rw [scalar_eq_integer (.inr hc) hdate]
  exact integer_cons_of_digit hc (cs ++ after)

theorem expression_matches_digit {c : Char} {cs : List Char} (h : chars = c :: cs)
    (hc : c.isDigit = true) : ¬expression.Mismatches (chars ++ after) := by
  have hscalar := scalar_chars hafter hchars h hc
  have hmatch : ¬scalar.Mismatches (chars ++ after) := by
    rintro ⟨fault, left, hread⟩
    rcases hscalar with ⟨n, hscalar⟩ | hscalar <;> rw [hscalar] at hread <;> cases hread
  have hpass := dropWhile_chars hchars (by simp [h]) after
  have hterm : term (chars ++ after) = scalar (chars ++ after) := by
    change (scalar.orElse set) ((chars ++ after).dropWhile isSpacing) = _
    rw [hpass, orElse_of_not_mismatches hmatch]
  obtain ⟨-, -, hmark⟩ := ne_of_numeral (.inr hc)
  rw [Mismatches, expression_eq, leveled_of_term]
  · intro hmismatch
    have hmismatch' := (map_mismatches_iff _).1 hmismatch
    rw [Mismatches, hterm] at hmismatch'
    exact hmatch hmismatch'
  · rw [hpass, h]
    simpa using hmark '(' (by decide)
  · rw [hpass, h]
    simpa using hmark '!' (by decide)
  · intro t left hread
    rw [hterm] at hread
    rcases hscalar with ⟨n, hscalar⟩ | hscalar <;> rw [hscalar] at hread <;> cases hread
    exact halts_chars hafter fun d hd => hchars d ((List.dropWhile_suffix _).subset hd)

end

/-! What comes after the word "if" is read as queries or left to others. -/

section

variable {tail after : List Char} {terms : List Source.Term} (hargs : Arguments after terms rest)
include hargs

/-- The rest of a name begins a query unless it begins with a colon. -/
theorem queries_tail_mismatches_iff (htail : ∀ c ∈ tail, isNameChar c = true) (hsome : tail ≠ []) :
    queries.Mismatches (tail ++ after) ↔ tail.head? = some ':' := by
  obtain ⟨c, cs, rfl⟩ := List.exists_cons_of_ne_nil hsome
  obtain ⟨hfirst, hothers⟩ := List.forall_mem_cons.1 htail
  rw [queries_mismatches_iff]
  by_cases hcolon : c = ':'
  · subst hcolon
    have hnext : (':' :: cs ++ after).dropWhile isSpacing = ':' :: (cs ++ after) := rfl
    refine iff_of_true ⟨?_, ?_⟩ rfl
    · exact predicate_mismatches_of_head (by decide) (by decide) (cs ++ after)
        (List.forall_mem_nil _)
    · rw [Mismatches, expression_eq]
      exact leveled_mismatches hnext (by decide) (by decide) (term_mismatches (by decide) _) _ 6
  refine iff_of_false ?_ (by simp [hcolon])
  rintro ⟨hpredicate, hexpression⟩
  by_cases hstart : isNameStart c = true
  · have hread : predicate (c :: cs ++ after) = .ok ⟨String.ofList (c :: cs), terms⟩ rest := by
      have hname : IsName (String.ofList (c :: cs)) :=
        ⟨c, cs, String.toList_ofList, hstart, hothers⟩
      refine predicate_eq_ok_iff.2 ⟨after, ?_, hname, hargs⟩
      rw [dropWhile_chars htail hsome, String.toList_ofList]
    exact not_mismatches_of_ok hread hpredicate
  · have hdigit : c.isDigit = true := by
      simp only [isNameChar, Char.isAlphanum, Bool.or_eq_true, beq_iff_eq] at hfirst
      simp only [isNameStart, Bool.or_eq_true, beq_iff_eq, not_or] at hstart
      tauto
    exact expression_matches_digit hargs.head_dropWhile htail rfl hdigit hexpression

theorem exists_length_eq_succ : ∃ depth, after.length = depth + 1 := by
  refine Nat.exists_eq_succ_of_ne_zero fun hlength => ?_
  have hopen := hargs.head_dropWhile
  rw [List.length_eq_zero_iff.1 hlength] at hopen
  cases hopen

theorem queries_mismatches_of_expression (h : expression.Mismatches after) :
    queries.Mismatches after := by
  obtain ⟨items, hopen⟩ := List.head?_eq_some_iff.1 hargs.head_dropWhile
  exact queries_mismatches_iff.2 ⟨predicate_mismatches_paren hopen, h⟩

theorem queries_mismatches_of_length (hmany : terms.length ≠ 1) : queries.Mismatches after := by
  obtain ⟨depth, hdepth⟩ := exists_length_eq_succ hargs
  obtain ⟨items, hopen⟩ := List.head?_eq_some_iff.1 hargs.head_dropWhile
  refine queries_mismatches_of_expression hargs ?_
  rw [Mismatches, expression_eq, hdepth]
  rcases parens_arguments hargs depth with ⟨hone, -⟩ | ⟨-, hmismatch⟩
  · exact absurd hone hmany
  · exact leveled_mismatches_of_parens hopen hmismatch 6

theorem queries_match_of_length (hone : terms.length = 1)
    (hends : ∀ inner, Concludes inner 6 rest) : ¬queries.Mismatches after := by
  obtain ⟨depth, hdepth⟩ := exists_length_eq_succ hargs
  obtain ⟨items, hopen⟩ := List.head?_eq_some_iff.1 hargs.head_dropWhile
  rcases parens_arguments hargs depth with ⟨-, ops, hread⟩ | ⟨hmany, -⟩
  · have hexpression : expression after = .ok ops rest := by
      rw [expression_eq, hdepth]
      exact leveled_of_parens hopen hread (hends _)
    exact fun h => not_mismatches_of_ok hexpression (queries_mismatches_iff.1 h).2
  · exact absurd hone hmany

/-- The sign that an arrow begins with needs another operand than the hyphen it ends with. -/
theorem queries_mismatches_of_arrow {left : List Char}
    (hnext : rest.dropWhile isSpacing = '<' :: '-' :: left)
    (hdigit : ∀ c ∈ left.head?, Unicode.isDigit c = false) : queries.Mismatches after := by
  obtain ⟨depth, hdepth⟩ := exists_length_eq_succ hargs
  obtain ⟨items, hopen⟩ := List.head?_eq_some_iff.1 hargs.head_dropWhile
  rcases parens_arguments hargs depth with ⟨-, ops, hread⟩ | ⟨hmany, -⟩
  · refine queries_mismatches_of_expression hargs ?_
    rw [Mismatches, expression_eq, hdepth]
    have hends : Concludes (nestedExpression (depth + 1)) 3 rest :=
      Halts.concludes (by simp [Halts, hnext, opener?]) _
    have hsum := leveled_of_parens hopen hread hends
    have hoperand : (leveled (nestedExpression (depth + 1)) 3).Mismatches ('-' :: left) :=
      leveled_mismatches (by rfl) (by decide) (by decide) (term_mismatches_hyphen hdigit) _ 3
    have hsign : oneSign (signs 4) ('<' :: '-' :: left) = .ok .lessThan ('-' :: left) := rfl
    have hsome : rest ≠ [] := by
      rintro rfl
      cases hnext
    have hcomparison : (leveled (nestedExpression (depth + 1)) 4).Mismatches after :=
      chain_mismatches_of_operator hsum hsome (hnext ▸ hsign) hoperand
    exact chain_mismatches (chain_mismatches hcomparison)
  · exact queries_mismatches_of_length hargs hmany

end

end Warrant.Grammar
