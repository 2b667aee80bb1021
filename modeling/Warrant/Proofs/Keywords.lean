import Warrant.Proofs.Heads

namespace Warrant.Grammar

open Warrant.Grammar.Parser

variable {text rest : List Char}

/-- The word of checks, and those of policies. -/
def words : List String := ["check", "allow", "deny"]

/-- Whether a name begins as checks and policies do and goes on with some characters. -/
def Continues (name : String) (tail : List Char) : Prop :=
  ∃ word ∈ words, name.toList = word.toList ++ ("if".toList ++ tail)

/-- Whether a name goes on as queries do after the beginning of a check or policy. -/
def Taken (name : String) : Prop :=
  ∃ tail, Continues name tail ∧ tail ≠ [] ∧ tail.head? ≠ some ':'

/-- Whether a predicate is the beginning of a check or policy and a term in parentheses. -/
def Bare (p : Source.Predicate) : Prop := Continues p.name [] ∧ p.terms.length = 1

/-- Whether the arrow after the head of a rule ends with the sign of a negative number. -/
def ArrowBeforeDigit (text : List Char) : Prop :=
  ∃ head rest c left, predicate text = .ok head rest ∧
    rest.dropWhile isSpacing = '<' :: '-' :: c :: left ∧ Unicode.isDigit c = true

section

variable {p : Source.Predicate}

section

variable {after : List Char} (htext : text.dropWhile isSpacing = p.name.toList ++ after)
  (hname : IsName p.name) (hargs : Arguments after p.terms rest) (htaken : ¬Taken p.name)
  (hbare : Continues p.name [] → queries.Mismatches after)
include htext hname hargs htaken hbare

/-- A predicate that is not taken for the beginning of a check or policy does not begin with a word
    of these, or what is left of it is no clause of them. -/
theorem word_cases {word : String} (hword : word ∈ words) : (sign word).Mismatches text ∨
    ∃ left, sign word text = .ok () left ∧ ∀ {α : Type} (make : List Source.Rule → α),
      (do sign "if"; return make (← queries) : Parser α).Mismatches left := by
  have hafter := hargs.head_dropWhile
  have hchars : ∃ c cs, word.toList = c :: cs ∧ ∀ c ∈ word.toList, isNameChar c = true := by
    simp only [words, List.mem_cons, List.not_mem_nil, or_false] at hword
    rcases hword with rfl | rfl | rfl <;> exact ⟨_, _, rfl, by decide⟩
  obtain ⟨c, cs, hcons, hchars⟩ := hchars
  have hsome : p.name.toList ≠ [] := by
    obtain ⟨d, ds, hd, -⟩ := hname
    simp [hd]
  rcases sign_chars hafter hname.isNameChar word hcons hchars
    (htext.trans (dropWhile_chars hname.isNameChar hsome after).symm) with
    hmissing | ⟨left, hleft, hread⟩
  · exact .inl hmissing
  refine .inr ⟨left ++ after, hread, fun make => ?_⟩
  have hleft' : ∀ c ∈ left, isNameChar c = true :=
    fun c hc => hname.isNameChar c (hleft ▸ List.mem_append_right _ hc)
  rcases sign_chars hafter hleft' "if" rfl (by decide) rfl with hmissing | ⟨tail, rfl, hif⟩
  · exact hmissing.bind
  rw [Mismatches, bind_of_ok hif]
  have htail : Continues p.name tail := ⟨word, hword, hleft⟩
  by_cases hempty : tail = []
  · subst hempty
    exact (hbare htail).bind
  · refine ((queries_tail_mismatches_iff hargs ?_ hempty).2 ?_).bind
    · exact fun c hc => hleft' c (List.mem_append_right _ hc)
    · exact by_contra fun hcolon => htaken ⟨tail, htail, hempty, hcolon⟩

theorem check_mismatches : check.Mismatches text := by
  rcases word_cases htext hname hargs htaken hbare (by decide : "check" ∈ words) with
    hmissing | ⟨left, hread, hclause⟩
  · exact hmissing.bind
  · rw [Mismatches, check, bind_of_ok hread]
    exact hclause CheckOf.mk

end

theorem policy_of_allow {left : List Char} (h : sign "allow" text = .ok () left) :
    policy text =
      (do sign "if"; return PolicyOf.mk (← queries) .allow : Parser Source.Policy) left := by
  have hkind : Parser.orElse (do sign "allow"; return PolicyKind.allow)
      (do sign "deny"; return PolicyKind.deny) text = .ok .allow left := orElse_of_ok (bind_of_ok h)
  rw [policy, bind_of_ok hkind]

theorem policy_of_deny {left : List Char} (hallow : (sign "allow").Mismatches text)
    (h : sign "deny" text = .ok () left) : policy text =
      (do sign "if"; return PolicyOf.mk (← queries) .deny : Parser Source.Policy) left := by
  have hkind : Parser.orElse (do sign "allow"; return PolicyKind.allow)
      (do sign "deny"; return PolicyKind.deny) text = .ok .deny left :=
    hallow.bind.orElse_eq.trans (bind_of_ok h)
  rw [policy, bind_of_ok hkind]

/-- A predicate that is not taken for the beginning of a check or policy leads to a rule or a
    fact. -/
theorem statement_eq_rule_or_fact {after : List Char}
    (htext : text.dropWhile isSpacing = p.name.toList ++ after) (hname : IsName p.name)
    (hargs : Arguments after p.terms rest) (htaken : ¬Taken p.name)
    (hbare : Continues p.name [] → queries.Mismatches after) : statement text =
      Parser.orElse (do return .rule (← rule)) (do return .fact (← fact)) text := by
  have hcheck := check_mismatches htext hname hargs htaken hbare
  have hpolicy : policy.Mismatches text := by
    rcases word_cases htext hname hargs htaken hbare (by decide : "allow" ∈ words) with
      hallow | ⟨left, hread, hclause⟩
    · rcases word_cases htext hname hargs htaken hbare (by decide : "deny" ∈ words) with
        hdeny | ⟨left, hread, hclause⟩
      · exact (orElse_mismatches_iff.2 ⟨hallow.bind, hdeny.bind⟩).bind
      · rw [Mismatches, policy_of_deny hallow hread]
        exact hclause (PolicyOf.mk · .deny)
    · rw [Mismatches, policy_of_allow hread]
      exact hclause (PolicyOf.mk · .allow)
  have hquery : query.Mismatches text := by
    obtain ⟨c, cs, hcons, hc, -⟩ := hname
    refine (sign_mismatches (m := '?') rfl ?_).bind
    rw [htext, hcons]
    rintro ⟨⟩
    cases hc
  rw [statement, hcheck.bind.orElse_eq, hpolicy.bind.orElse_eq, hquery.bind.orElse_eq]

theorem statement_of_check (h : ¬check.Mismatches text) {s : Source.Statement}
    (hread : statement text = .ok s rest) : ∃ c, s = .check c := by
  have hmatch : ¬(do return .check (← check) : Parser Source.Statement).Mismatches text :=
    (map_mismatches_iff _).not.2 h
  rw [statement, orElse_of_not_mismatches hmatch] at hread
  obtain ⟨c, between, -, hpure⟩ := exists_of_bind_eq_ok hread
  cases hpure
  exact ⟨c, rfl⟩

theorem statement_of_policy (hcheck : check.Mismatches text) (h : ¬policy.Mismatches text)
    {s : Source.Statement} (hread : statement text = .ok s rest) : ∃ p, s = .policy p := by
  have hmatch : ¬(do return .policy (← policy) : Parser Source.Statement).Mismatches text :=
    (map_mismatches_iff _).not.2 h
  rw [statement, hcheck.bind.orElse_eq, orElse_of_not_mismatches hmatch] at hread
  obtain ⟨p, between, -, hpure⟩ := exists_of_bind_eq_ok hread
  cases hpure
  exact ⟨p, rfl⟩

/-- What begins as checks or policies do, before what is read as queries, is one of these. -/
theorem statement_of_continues {after : List Char}
    (htext : text.dropWhile isSpacing = p.name.toList ++ after) {tail : List Char}
    (htail : Continues p.name tail) (hqueries : ¬queries.Mismatches (tail ++ after))
    {s : Source.Statement} {left : List Char} (hread : statement text = .ok s left) :
    (∃ c, s = .check c) ∨ ∃ p, s = .policy p := by
  obtain ⟨word, hword, hsplit⟩ := htail
  rw [hsplit, List.append_assoc] at htext
  have hsign : sign word text = .ok () ("if".toList ++ tail ++ after) := sign_eq_ok_iff.2 htext
  have hclause {α : Type} (make : List Source.Rule → α) :
      ¬(do sign "if"; return make (← queries) : Parser α).Mismatches
        ("if".toList ++ tail ++ after) := by
    have hif : sign "if" ("if".toList ++ tail ++ after) = .ok () (tail ++ after) := rfl
    rw [Mismatches, bind_of_ok hif]
    exact fun hmismatch => hqueries ((map_mismatches_iff make).1 hmismatch)
  have hother {mark : String} {m : Char} {ms : List Char} (hmark : mark.toList = m :: ms)
      (hne : word.toList.head? ≠ some m) (hsome : word.toList ≠ []) :
      (sign mark).Mismatches text := by
    refine sign_mismatches hmark ?_
    rwa [htext, List.head?_append_of_ne_nil _ hsome]
  simp only [words, List.mem_cons, List.not_mem_nil, or_false] at hword
  rcases hword with rfl | rfl | rfl
  · refine .inl (statement_of_check ?_ hread)
    rw [Mismatches, check, bind_of_ok hsign]
    exact hclause CheckOf.mk
  · refine .inr (statement_of_policy (hother rfl (by decide) (by decide)).bind ?_ hread)
    rw [Mismatches, policy_of_allow hsign]
    exact hclause (PolicyOf.mk · .allow)
  · refine .inr (statement_of_policy (hother rfl (by decide) (by decide)).bind ?_ hread)
    rw [Mismatches, policy_of_deny (hother rfl (by decide) (by decide)) hsign]
    exact hclause (PolicyOf.mk · .deny)

theorem statement_of_taken (h : predicate text = .ok p rest) (htaken : Taken p.name)
    {s : Source.Statement} {left : List Char} (hread : statement text = .ok s left) :
    (∃ c, s = .check c) ∨ ∃ p, s = .policy p := by
  obtain ⟨after, htext, hname, hargs⟩ := predicate_eq_ok_iff.1 h
  obtain ⟨tail, htail, hsome, hcolon⟩ := htaken
  refine statement_of_continues htext htail (fun hmismatch => hcolon ?_) hread
  refine (queries_tail_mismatches_iff hargs (fun c hc => hname.isNameChar c ?_) hsome).1 hmismatch
  obtain ⟨word, -, hsplit⟩ := htail
  rw [hsplit]
  exact List.mem_append_right _ (List.mem_append_right _ hc)

end

/-- No policy begins as checks do. -/
theorem check_mismatches_of_policy {p : Source.Policy} (h : policy text = .ok p rest) :
    check.Mismatches text := by
  obtain ⟨kind, between, hkind, -⟩ := exists_of_bind_eq_ok h
  have hhead : (text.dropWhile isSpacing).head? ≠ some 'c' := by
    rcases of_orElse_eq_ok hkind with hkind | hkind <;>
      obtain ⟨_, left, hsign, -⟩ := exists_of_bind_eq_ok hkind <;>
      rw [sign_eq_ok_iff.1 hsign] <;> exact nofun
  exact (sign_mismatches (m := 'c') rfl hhead).bind

/-- At most a semicolon or a period comes at the end of a text. -/
theorem ends_of_afterTerminator (h : afterTerminator rest = []) :
    (rest.dropWhile isSpacing = [] ∨ ∃ left, rest.dropWhile isSpacing = ';' :: left) ∨
      ∃ left, rest.dropWhile isSpacing = '.' :: left ∧ left.dropWhile isSpacing = [] := by
  rw [afterTerminator] at h
  split at h
  case h_1 left hnext => exact .inl (.inr ⟨left, hnext⟩)
  case h_2 left hnext => exact .inr ⟨left, hnext, h⟩
  case h_3 => exact .inl (.inl h)

/-- No method and no operation comes at the end of a text. -/
theorem concludes_of_afterTerminator (h : afterTerminator rest = [])
    (inner : Parser Source.Expression) : Concludes inner 6 rest := by
  rcases ends_of_afterTerminator h with (hnext | ⟨left, hnext⟩) | ⟨left, hnext, hleft⟩
  · exact Halts.concludes (by simp [Halts, hnext]) inner
  · exact Halts.concludes (by simp [Halts, hnext, opener?]) inner
  · refine ⟨?_, fun level _ => operator_mismatches (by simp [hnext, opener?])⟩
    have hdot : sign "." rest = .ok () left := sign_eq_ok_iff.2 hnext
    have hname : name.Mismatches left := by
      cases left with
      | nil => exact ⟨_, _, rfl⟩
      | cons c cs =>
        refine ⟨.lexeme, c :: cs, ?_⟩
        rw [name, if_neg]
        intro hc
        have hspacing := isSpacing_of_isNameChar (isNameChar_of_isNameStart hc)
        simp [hspacing] at hleft
    rw [Mismatches, methodCall, bind_of_ok hdot]
    exact hname.bind

theorem rule_mismatches_of_fact {f : Source.Fact} (h : predicate text = .ok f rest)
    (hrest : afterTerminator rest = []) : rule.Mismatches text := by
  have harrow : (sign "<-").Mismatches rest := by
    refine sign_mismatches (m := '<') rfl ?_
    rcases ends_of_afterTerminator hrest with (hnext | ⟨left, hnext⟩) | ⟨left, hnext, -⟩ <;>
      simp [hnext]
  rw [Mismatches, rule, bind_of_ok h]
  exact harrow.bind

theorem head_of_rule {r : Source.Rule} (h : rule text = .ok r rest) : ∃ between left,
    predicate text = .ok r.head between ∧ between.dropWhile isSpacing = '<' :: '-' :: left := by
  obtain ⟨head, between, hpredicate, h⟩ := exists_of_bind_eq_ok h
  obtain ⟨_, left, harrow, h⟩ := exists_of_bind_eq_ok h
  obtain ⟨parts, left', -, h⟩ := exists_of_bind_eq_ok h
  cases h
  exact ⟨between, left, hpredicate, sign_eq_ok_iff.1 harrow⟩

/-- A fact is read as one exactly if what it begins with is not taken for the beginning of a check
    or policy. -/
theorem readStatement_fact_iff {text : String} {f : Source.Fact} (h : readFact text = .ok f) :
    readStatement text = .ok (.fact f) ↔ ¬Taken f.name ∧ ¬Bare f := by
  obtain ⟨rest, hread, hrest⟩ := readWhole_eq_ok_iff.1 h
  have hpredicate := (fact_eq_ok_iff.1 hread).1
  obtain ⟨after, htext, hname, hargs⟩ := predicate_eq_ok_iff.1 hpredicate
  constructor
  · intro hstatement
    obtain ⟨rest', hstatement, -⟩ := readWhole_eq_ok_iff.1 hstatement
    refine ⟨fun htaken => ?_, fun ⟨hbare, hone⟩ => ?_⟩
    · rcases statement_of_taken hpredicate htaken hstatement with ⟨c, ⟨⟩⟩ | ⟨p, ⟨⟩⟩
    · have hqueries := queries_match_of_length hargs hone (concludes_of_afterTerminator hrest)
      rcases statement_of_continues htext hbare hqueries hstatement with ⟨c, ⟨⟩⟩ | ⟨p, ⟨⟩⟩
  · rintro ⟨htaken, hbare⟩
    refine readWhole_eq_ok_iff.2 ⟨rest, ?_, hrest⟩
    rw [statement_eq_rule_or_fact htext hname hargs htaken fun h =>
        queries_mismatches_of_length hargs fun hone => hbare ⟨h, hone⟩,
      (rule_mismatches_of_fact hpredicate hrest).bind.orElse_eq]
    exact bind_of_ok hread

theorem readStatement_of_readRule {text : String} {r : Source.Rule} (h : readRule text = .ok r)
    (htaken : ¬Taken r.head.name) (hbare : ¬(Bare r.head ∧ ArrowBeforeDigit text.toList)) :
    readStatement text = .ok (.rule r) := by
  obtain ⟨rest, hread, hrest⟩ := readWhole_eq_ok_iff.1 h
  obtain ⟨between, left, hpredicate, harrow⟩ := head_of_rule hread
  obtain ⟨after, htext, hname, hargs⟩ := predicate_eq_ok_iff.1 hpredicate
  refine readWhole_eq_ok_iff.2 ⟨rest, ?_, hrest⟩
  rw [statement_eq_rule_or_fact htext hname hargs htaken fun h => ?_]
  · exact orElse_of_ok (bind_of_ok hread)
  · by_cases hone : r.head.terms.length = 1
    · refine queries_mismatches_of_arrow hargs harrow fun c hc => ?_
      obtain ⟨cs, rfl⟩ := List.head?_eq_some_iff.1 hc
      by_contra hdigit
      exact hbare ⟨⟨h, hone⟩, _, _, c, cs, hpredicate, harrow, by simpa using hdigit⟩
    · exact queries_mismatches_of_length hargs hone

theorem readStatement_ne_of_readRule {text : String} {r : Source.Rule} (h : readRule text = .ok r)
    (htaken : Taken r.head.name) : readStatement text ≠ .ok (.rule r) := by
  intro hstatement
  obtain ⟨rest, hread, -⟩ := readWhole_eq_ok_iff.1 h
  obtain ⟨between, left, hpredicate, -⟩ := head_of_rule hread
  obtain ⟨rest', hstatement, -⟩ := readWhole_eq_ok_iff.1 hstatement
  rcases statement_of_taken hpredicate htaken hstatement with ⟨c, ⟨⟩⟩ | ⟨p, ⟨⟩⟩

/-- A text is the same statement whether or not it is known what kind of statement it is: for checks
    and policies always, for facts exactly if what they begin with is not taken for the beginning
    of a check or policy, and for rules if what they begin with is not taken for it. -/
theorem readStatement_agrees (text : String) :
    (∀ c, readCheck text = .ok c → readStatement text = .ok (.check c)) ∧
    (∀ p, readPolicy text = .ok p → readStatement text = .ok (.policy p)) ∧
    (∀ f, readFact text = .ok f →
      (readStatement text = .ok (.fact f) ↔ ¬Taken f.name ∧ ¬Bare f)) ∧
    ∀ r, readRule text = .ok r →
      (¬Taken r.head.name → ¬(Bare r.head ∧ ArrowBeforeDigit text.toList) →
        readStatement text = .ok (.rule r)) ∧
      (Taken r.head.name → readStatement text ≠ .ok (.rule r)) := by
  refine ⟨fun c h => ?_, fun p h => ?_, fun f h => readStatement_fact_iff h,
    fun r h => ⟨readStatement_of_readRule h, readStatement_ne_of_readRule h⟩⟩
  · obtain ⟨rest, hread, hrest⟩ := readWhole_eq_ok_iff.1 h
    exact readWhole_eq_ok_iff.2 ⟨rest, orElse_of_ok (bind_of_ok hread), hrest⟩
  · obtain ⟨rest, hread, hrest⟩ := readWhole_eq_ok_iff.1 h
    refine readWhole_eq_ok_iff.2 ⟨rest, ?_, hrest⟩
    rw [statement, (check_mismatches_of_policy hread).bind.orElse_eq]
    exact orElse_of_ok (bind_of_ok hread)

/-- A fact and a rule that are read as checks where the kind of statement is not known. -/
theorem checkif_readStatement :
    (readFact "checkif(1)" = .ok ⟨"checkif", [.integer 1]⟩ ∧
      readStatement "checkif(1)" =
        .ok (.check ⟨[⟨⟨"query", []⟩, [], [[.value (.integer 1), .unary .parens]]⟩]⟩)) ∧
    readRule "checkif(1) <-1" = .ok ⟨⟨"checkif", [.integer 1]⟩, [], [[.value (.integer 1)]]⟩ ∧
      readStatement "checkif(1) <-1" = .ok (.check ⟨[⟨⟨"query", []⟩, [], [[.value (.integer 1),
        .unary .parens, .value (.integer (-1)), .binary .lessThan]]⟩]⟩) := by
  refine ⟨⟨rfl, rfl⟩, readWhole_eq_ok_iff.2 ⟨[], ?_, rfl⟩, rfl⟩
  have hhead : predicate "checkif(1) <-1".toList =
      .ok ⟨"checkif", [.integer 1]⟩ " <-1".toList := rfl
  have harrow : sign "<-" " <-1".toList = .ok () ['1'] := rfl
  have hbody : body ['1'] = .ok ([], [[.value (.integer 1)]]) [] := rfl
  rw [rule, bind_of_ok hhead, bind_of_ok harrow, bind_of_ok hbody]
  rfl

theorem not_continues_allowed (tail : List Char) : ¬Continues "allowed" tail := by
  rintro ⟨word, hword, hsplit⟩
  simp only [words, List.mem_cons, List.not_mem_nil, or_false] at hword
  rcases hword with rfl | rfl | rfl <;> cases hsplit

theorem not_arrowBeforeDigit : ¬ArrowBeforeDigit "checkif($x) <- a($x)".toList := by
  rintro ⟨head, rest, c, left, hread, hnext, hdigit⟩
  have hhead : predicate "checkif($x) <- a($x)".toList =
      .ok ⟨"checkif", [.var "x"]⟩ " <- a($x)".toList := rfl
  rw [hhead] at hread
  cases hread
  cases hnext
  cases hdigit

/-- A fact whose name only begins with a word, a rule whose name is no more than the beginning of a
    check, and a rule whose name goes on after that of a policy. -/
theorem allowed_readStatement_agrees :
    readStatement "check if a($x)" = .ok (.check ⟨[⟨⟨"query", []⟩, [⟨"a", [.var "x"]⟩], []⟩]⟩) ∧
    readStatement "deny if a($x);" =
      .ok (.policy ⟨[⟨⟨"query", []⟩, [⟨"a", [.var "x"]⟩], []⟩], .deny⟩) ∧
    readStatement "allowed(1)." = .ok (.fact ⟨"allowed", [.integer 1]⟩) ∧
    readStatement "checkif($x) <- a($x)" =
      .ok (.rule ⟨⟨"checkif", [.var "x"]⟩, [⟨"a", [.var "x"]⟩], []⟩) ∧
    readStatement "allowifa($x) <- a($x)" ≠
      .ok (.rule ⟨⟨"allowifa", [.var "x"]⟩, [⟨"a", [.var "x"]⟩], []⟩) := by
  have hcheck : readCheck "check if a($x)" = .ok ⟨[⟨⟨"query", []⟩, [⟨"a", [.var "x"]⟩], []⟩]⟩ := rfl
  have hpolicy : readPolicy "deny if a($x);" =
      .ok ⟨[⟨⟨"query", []⟩, [⟨"a", [.var "x"]⟩], []⟩], .deny⟩ := rfl
  have hfact : readFact "allowed(1)." = .ok ⟨"allowed", [.integer 1]⟩ := rfl
  have hrule : readRule "checkif($x) <- a($x)" =
      .ok ⟨⟨"checkif", [.var "x"]⟩, [⟨"a", [.var "x"]⟩], []⟩ := rfl
  have htaken : readRule "allowifa($x) <- a($x)" =
      .ok ⟨⟨"allowifa", [.var "x"]⟩, [⟨"a", [.var "x"]⟩], []⟩ := rfl
  obtain ⟨hchecks, -⟩ := readStatement_agrees "check if a($x)"
  obtain ⟨-, hpolicies, -⟩ := readStatement_agrees "deny if a($x);"
  obtain ⟨-, -, hfacts, -⟩ := readStatement_agrees "allowed(1)."
  obtain ⟨-, -, -, hrules⟩ := readStatement_agrees "checkif($x) <- a($x)"
  obtain ⟨-, -, -, htakens⟩ := readStatement_agrees "allowifa($x) <- a($x)"
  refine ⟨hchecks _ hcheck, hpolicies _ hpolicy, (hfacts _ hfact).2 ⟨?_, ?_⟩,
    (hrules _ hrule).1 ?_ ?_, (htakens _ htaken).2 ?_⟩
  · exact fun ⟨tail, htail, _⟩ => not_continues_allowed tail htail
  · exact fun ⟨htail, _⟩ => not_continues_allowed [] htail
  · rintro ⟨tail, ⟨word, hword, hsplit⟩, hsome, -⟩
    simp only [words, List.mem_cons, List.not_mem_nil, or_false] at hword
    rcases hword with rfl | rfl | rfl <;> cases hsplit
    exact hsome rfl
  · exact fun h => not_arrowBeforeDigit h.2
  · exact ⟨['a'], ⟨"allow", by decide, rfl⟩, by decide, by decide⟩

end Warrant.Grammar
