import Warrant.Grammar.Expression
import Warrant.Proofs.Lexemes
import Warrant.Proofs.Trees

namespace Warrant

namespace Binary

theorem render_of_sign {which : Binary} {mark : String} (h : which.sign? = some mark)
    (left right : String) : which.render left right = left ++ " " ++ mark ++ " " ++ right := by
  rw [render, h]

/-- An operation that does not stand between its operands is a method. -/
theorem exists_method {which : Binary} (h : which.looseness? = none) : ∃ name,
    Grammar.IsName name ∧ name ≠ "length" ∧ Grammar.methodNamed? name = some which ∧
      ∀ left right, which.render left right = left ++ "." ++ name ++ "(" ++ right ++ ")" := by
  cases which <;> cases h <;>
    exact ⟨_, ⟨_, _, rfl, by decide, by decide⟩, by decide, rfl, fun _ _ => rfl⟩

end Binary

namespace Tree

/-! The texts of trees, character by character. -/

variable {α : Type} {print : α → String}

theorem toList_text_parens (t : Tree α) :
    ((unary .parens t).text print).toList = '(' :: ((t.text print).toList ++ [')']) := by
  simp [text, Unary.render]

theorem toList_text_length (t : Tree α) :
    ((unary .length t).text print).toList = (t.text print).toList ++ ".length()".toList := by
  rw [text, Unary.render, String.toList_append]

theorem toList_text_negate (t : Tree α) :
    ((unary .negate t).text print).toList = '!' :: (t.text print).toList := by
  simp [text, Unary.render]

theorem toList_text_method {which : Binary} {name : String}
    (h : ∀ left right, which.render left right = left ++ "." ++ name ++ "(" ++ right ++ ")")
    (left right : Tree α) :
    ((binary which left right).text print).toList = (left.text print).toList ++
      '.' :: (name.toList ++ '(' :: ((right.text print).toList ++ [')'])) := by
  simp [text, h]

theorem toList_text_operator {which : Binary} {mark : String} (h : which.sign? = some mark)
    (left right : Tree α) :
    ((binary which left right).text print).toList = (left.text print).toList ++
      ' ' :: (mark.toList ++ ' ' :: (right.text print).toList) := by
  simp [text, Binary.render_of_sign h]

end Tree

namespace Grammar

open Warrant.Grammar.Parser

/-- The operations that bind as loosely as a level says, by their signs, in the order in which
    they are tried. -/
def signs : Nat → List (String × Binary)
  | 2 => [("*", .mul), ("/", .div)]
  | 3 => [("+", .add), ("-", .sub)]
  | 4 => [("<=", .lessOrEqual), (">=", .greaterOrEqual), ("==", .equal), ("<", .lessThan),
    (">", .greaterThan)]
  | 5 => [("&&", .and)]
  | 6 => [("||", .or)]
  | _ => []

/-- The parser of the expressions of a level. -/
def leveled (inner : Parser Source.Expression) : Nat → Parser Source.Expression
  | 0 => methods inner
  | 1 => negation inner
  | level + 2 => chain (leveled inner (level + 1)) (oneSign (signs (level + 2)))

theorem leveled_six (inner : Parser Source.Expression) : leveled inner 6 = disjunction inner := rfl

theorem expression_eq (text : List Char) :
    expression text = leveled (nestedExpression text.length) 6 text := by
  rw [expression, nestedExpression, leveled_six]

theorem looseness?_of_mem_signs {level : Nat} {entry : String × Binary}
    (h : entry ∈ signs level) : entry.2.looseness? = some level := by
  have hlevels : ∀ level < 7, ∀ entry ∈ signs level, entry.2.looseness? = some level := by decide
  by_cases hlevel : level < 7
  · exact hlevels level hlevel entry h
  · match level with
    | level + 7 => cases h

/-- The level of the operations whose signs begin with a character. -/
def opener? (c : Char) : Option Nat :=
  match c with
  | '*' | '/' => some 2
  | '+' | '-' => some 3
  | '<' | '>' | '=' => some 4
  | '&' => some 5
  | '|' => some 6
  | _ => none

theorem exists_of_mem_signs {level : Nat} {entry : String × Binary} (h : entry ∈ signs level) :
    ∃ c cs, entry.1.toList = c :: cs ∧ opener? c = some level ∧ isSpacing c = false ∧
      c ≠ '.' ∧ c ≠ '(' := by
  unfold signs at h
  split at h <;> simp only [List.mem_cons, List.not_mem_nil, or_false] at h
  · rcases h with rfl | rfl <;> exact ⟨_, _, rfl, rfl, rfl, by decide, by decide⟩
  · rcases h with rfl | rfl <;> exact ⟨_, _, rfl, rfl, rfl, by decide, by decide⟩
  · rcases h with rfl | rfl | rfl | rfl | rfl <;> exact ⟨_, _, rfl, rfl, rfl, by decide, by decide⟩
  · obtain rfl := h
    exact ⟨_, _, rfl, rfl, rfl, by decide, by decide⟩
  · obtain rfl := h
    exact ⟨_, _, rfl, rfl, rfl, by decide, by decide⟩

/-- Whether neither a method nor an operation that binds as tightly as a level is next. -/
def Halts (level : Nat) (rest : List Char) : Prop :=
  ∀ c ∈ (rest.dropWhile isSpacing).head?, c ≠ '.' ∧ ∀ k ∈ opener? c, level < k

theorem Halts.mono {level level' : Nat} {rest : List Char} (h : Halts level rest)
    (hle : level' ≤ level) : Halts level' rest :=
  fun c hc => ⟨(h c hc).1, fun k hk => hle.trans_lt ((h c hc).2 k hk)⟩

/-- Whether an expression of a level is over before a text. -/
def Stops (level : Nat) (rest : List Char) : Prop := Ends rest ∧ Halts level rest

theorem Stops.mono {level level' : Nat} {rest : List Char} (h : Stops level rest)
    (hle : level' ≤ level) : Stops level' rest := ⟨h.1, h.2.mono hle⟩

theorem oneSign_mismatches {table : List (String × Binary)} {text : List Char}
    (h : ∀ entry ∈ table, ¬entry.1.toList <+: text) : (oneSign table).Mismatches text := by
  induction table with
  | nil => exact ⟨.sign, text, rfl⟩
  | cons entry table ih =>
    obtain ⟨hentry, htable⟩ := List.forall_mem_cons.1 h
    have hmark : (exact entry.1.toList).Mismatches text := by
      refine ⟨.sign, text, ?_⟩
      rw [exact, if_neg (by rwa [List.isPrefixOf_iff_prefix])]
    exact orElse_mismatches_iff.2 ⟨hmark.bind, ih htable⟩

/-- The sign of an operation is read, and not another one that it begins with. -/
theorem exists_sign {which : Binary} {level : Nat} (h : which.looseness? = some level) :
    ∃ mark, which.sign? = some mark ∧ (mark, which) ∈ signs level ∧
      ∀ text, oneSign (signs level) (mark.toList ++ ' ' :: text) = .ok which (' ' :: text) := by
  cases which <;> cases h <;> exact ⟨_, rfl, by decide, fun text => rfl⟩

theorem operator_mismatches {level : Nat} {text : List Char}
    (h : ∀ c ∈ text.head?, opener? c ≠ some level) : (oneSign (signs level)).Mismatches text := by
  refine oneSign_mismatches fun entry hentry hstart => ?_
  obtain ⟨c, cs, hmark, hopener, -⟩ := exists_of_mem_signs hentry
  obtain ⟨left, hleft⟩ := hstart
  exact h c (by rw [← hleft, hmark]; rfl) hopener

theorem Halts.operator_mismatches {level : Nat} {rest : List Char} (h : Halts level rest) :
    (oneSign (signs level)).Mismatches (rest.dropWhile isSpacing) :=
  Grammar.operator_mismatches fun c hc hopener => Nat.lt_irrefl level ((h c hc).2 level hopener)

/-! Operations that bind more loosely, closing parentheses and commas end an expression. -/

theorem stops_operator {level : Nat} {entry : String × Binary} (h : entry ∈ signs (level + 1))
    (text : List Char) : Stops level (' ' :: (entry.1.toList ++ text)) := by
  obtain ⟨c, cs, hmark, hopener, hspacing, hdot, hparen⟩ := exists_of_mem_signs h
  have hnext : (' ' :: (entry.1.toList ++ text)).dropWhile isSpacing = c :: (cs ++ text) := by
    rw [hmark, List.dropWhile_cons_of_pos (by decide)]
    simp [hspacing]
  refine ⟨⟨by simp, ?_⟩, ?_⟩
  · rw [hnext, List.head?_cons]
    exact fun heq => hparen (Option.some.inj heq)
  · rw [Halts, hnext]
    rintro d ⟨⟩
    refine ⟨hdot, fun k hk => ?_⟩
    rw [hopener] at hk
    cases hk
    exact Nat.lt_succ_self level

theorem stops_nil (level : Nat) : Stops level [] := by simp [Stops, Ends, Halts]

theorem stops_paren (level : Nat) (rest : List Char) : Stops level (')' :: rest) := by
  simp [Stops, Ends, Halts, isSpacing, opener?]

section

variable {α : Type} {print : α → String} {value : α → Source.Term}

/-- Whether an expression of a level is read from its text. Where more of it could follow, the
    parser goes on after it as after a part. -/
def ReadsAt (inner : Parser Source.Expression) :
    Nat → List Char → Source.Expression → Prop
  | 0, text, ops => (∃ c cs, text = c :: cs ∧ isSpacing c = false ∧ c ≠ '!') ∧
    ∀ pad rest, (∀ c ∈ pad, isSpacing c = true) → Ends rest →
      ∃ count, rest.length ≤ count ∧
        methods inner (pad ++ (text ++ rest)) = methodTail inner count ops rest
  | 1, text, ops => ∀ count pad rest, text.length ≤ count → (∀ c ∈ pad, isSpacing c = true) →
    Stops 1 rest → negations inner count (pad ++ (text ++ rest)) = .ok ops rest
  | level + 2, text, ops => ∀ pad rest, (∀ c ∈ pad, isSpacing c = true) → Stops (level + 1) rest →
    ∃ count, rest.length ≤ count ∧ leveled inner (level + 2) (pad ++ (text ++ rest)) =
      chainTail (leveled inner (level + 1)) (oneSign (signs (level + 2))) count ops rest

variable {inner : Parser Source.Expression} {text : List Char} {ops : Source.Expression}

theorem Halts.methodCall_mismatches {level : Nat} {rest : List Char} (h : Halts level rest)
    (inner : Parser Source.Expression) : (methodCall inner).Mismatches rest := by
  have hdot : (rest.dropWhile isSpacing).head? ≠ some '.' := fun hc => (h _ hc).1 rfl
  exact (sign_mismatches (by rfl) hdot).bind

theorem methodTail_of_mismatches {rest : List Char} (h : (methodCall inner).Mismatches rest)
    (count : Nat) : methodTail inner count ops rest = .ok ops rest := by
  cases count with
  | zero => rfl
  | succ count =>
    obtain ⟨fault, left, hcall⟩ := h
    rw [methodTail, hcall]

theorem chainTail_of_mismatches {operand : Parser Source.Expression} {operator : Parser Binary}
    {rest : List Char} (h : operator.Mismatches (rest.dropWhile isSpacing)) (count : Nat) :
    chainTail operand operator count ops rest = .ok ops rest := by
  cases count with
  | zero => rfl
  | succ count =>
    obtain ⟨fault, left, hsign⟩ := h
    rw [chainTail, hsign]

theorem chain_mismatches {operand : Parser Source.Expression} {operator : Parser Binary}
    (h : operand.Mismatches text) : (chain operand operator).Mismatches text := by
  obtain ⟨fault, left, h⟩ := h
  exact ⟨fault, left, by rw [chain, h]⟩

/-- No operand may be missing after an operator. -/
theorem chain_mismatches_of_operator {operand : Parser Source.Expression} {operator : Parser Binary}
    {rest left : List Char} {which : Binary} (h : operand text = .ok ops rest) (hsome : rest ≠ [])
    (hoperator : operator (rest.dropWhile isSpacing) = .ok which left)
    (hoperand : operand.Mismatches left) : (chain operand operator).Mismatches text := by
  obtain ⟨c, cs, rfl⟩ := List.exists_cons_of_ne_nil hsome
  obtain ⟨fault, left', hoperand⟩ := hoperand
  refine ⟨fault, left', ?_⟩
  rw [chain, h]
  dsimp only
  rw [List.length_cons, chainTail, hoperator]
  dsimp only
  rw [hoperand]

/-- Whether no method is read, and no operation that binds as tightly as a level says. -/
def Concludes (inner : Parser Source.Expression) (level : Nat) (rest : List Char) : Prop :=
  (methodCall inner).Mismatches rest ∧
    ∀ k ≤ level, (oneSign (signs k)).Mismatches (rest.dropWhile isSpacing)

theorem Halts.concludes {level : Nat} {rest : List Char} (h : Halts level rest)
    (inner : Parser Source.Expression) : Concludes inner level rest :=
  ⟨h.methodCall_mismatches inner, fun _ hlevel => (h.mono hlevel).operator_mismatches⟩

/-- Where neither a negation nor an operation is read, an expression of any level is what stands
    in its place. -/
theorem leveled_eq_primary {level : Nat} (hbang : (sign "!").Mismatches text)
    (hends : ∀ ops rest, primary inner text = .ok ops rest → Concludes inner level rest) :
    leveled inner level text = primary inner text := by
  have hmethods (h : ∀ ops rest, primary inner text = .ok ops rest →
      (methodCall inner).Mismatches rest) : methods inner text = primary inner text := by
    rw [methods]
    split
    case h_1 ops rest hprimary => rw [hprimary, methodTail_of_mismatches (h ops rest hprimary)]
    case h_2 => rfl
  induction level using leveled.induct with
  | case1 => exact hmethods fun ops rest hprimary => (hends ops rest hprimary).1
  | case2 =>
    obtain ⟨fault, left, hbang⟩ := hbang
    have hmethods' := hmethods fun ops rest hprimary => (hends ops rest hprimary).1
    rw [leveled, negation]
    cases text.length with
    | zero => exact hmethods'
    | succ count =>
      rw [negations]
      dsimp only
      rw [hbang, hmethods']
  | case3 level ih =>
    have hends' (ops rest) (hprimary : primary inner text = .ok ops rest) :
        Concludes inner (level + 1) rest :=
      ⟨(hends ops rest hprimary).1,
        fun k hk => (hends ops rest hprimary).2 k (Nat.le_succ_of_le hk)⟩
    rw [leveled, chain, ih hends']
    split
    case h_1 ops rest hprimary =>
      rw [hprimary, chainTail_of_mismatches ((hends ops rest hprimary).2 _ (Nat.le_refl _))]
    case h_2 => rfl

theorem ReadsAt.reads {level : Nat} (h : ReadsAt inner level text ops) :
    (leveled inner level).Reads (Stops level) text ops := by
  intro pad rest hpad hrest
  match level with
  | 0 =>
    obtain ⟨count, -, hread⟩ := h.2 pad rest hpad hrest.1
    exact hread.trans (methodTail_of_mismatches (hrest.2.methodCall_mismatches inner) count)
  | 1 => exact h _ pad rest (by simp; omega) hpad hrest
  | level + 2 =>
    obtain ⟨count, -, hread⟩ := h pad rest hpad (hrest.mono (Nat.le_succ _))
    exact hread.trans (chainTail_of_mismatches hrest.2.operator_mismatches count)

/-- What is read at a level is read at the next one. -/
theorem ReadsAt.succ {level : Nat} (h : ReadsAt inner level text ops) :
    ReadsAt inner (level + 1) text ops := by
  match level with
  | 0 =>
    intro count pad rest _ hpad hrest
    have hread := h.reads pad rest hpad (hrest.mono (Nat.zero_le 1))
    obtain ⟨⟨c, cs, rfl, hspacing, hbang⟩, -⟩ := h
    cases count with
    | zero => exact hread
    | succ count =>
      have hsign : (sign "!").Mismatches (pad ++ (c :: cs ++ rest)) := by
        refine sign_mismatches (m := '!') rfl ?_
        rw [dropWhile_append (by simpa using hspacing) hpad]
        simpa using hbang
      obtain ⟨fault, left, hsign⟩ := hsign
      rw [negations]
      dsimp only
      rw [hsign]
      exact hread
  | level + 1 =>
    intro pad rest hpad hrest
    refine ⟨rest.length, Nat.le_refl _, ?_⟩
    rw [leveled, chain, h.reads pad rest hpad hrest]

theorem readsAt_value {t : Source.Term} (hopens : Opens text) (hterm : term.Reads Ends text t) :
    ReadsAt inner 0 text [.value t] := by
  have hhead := hopens.head_eq_false
  obtain ⟨c, cs, rfl, hspacing, hparen, hbang, -⟩ := hopens
  refine ⟨⟨c, cs, rfl, hspacing, hbang⟩, fun pad rest hpad hrest =>
    ⟨rest.length, Nat.le_refl _, ?_⟩⟩
  have hparens : (parens inner).Mismatches (c :: cs ++ rest) :=
    (sign_mismatches_cons (by rfl) hspacing hparen).bind
  have hread : primary inner (pad ++ (c :: cs ++ rest)) = .ok [.value t] rest := by
    rw [primary, bind_of_ok (spacing_append hpad (hhead rest)), hparens.orElse_eq]
    exact bind_of_ok (hterm [] rest (List.forall_mem_nil _) hrest)
  rw [methods, hread]

theorem readsAt_parens (h : inner.Reads (Stops 6) text ops) :
    ReadsAt inner 0 ('(' :: (text ++ [')'])) (ops ++ [.unary .parens]) := by
  refine ⟨⟨'(', text ++ [')'], rfl, by decide, by decide⟩, fun pad rest hpad hrest =>
    ⟨rest.length, Nat.le_refl _, ?_⟩⟩
  have hparens : parens inner ('(' :: (text ++ ')' :: rest)) =
      .ok (ops ++ [.unary .parens]) rest := by
    refine (bind_of_ok (rfl : sign "(" _ = .ok () _)).trans ?_
    refine (bind_of_ok (h [] _ (List.forall_mem_nil _) (stops_paren 6 rest))).trans ?_
    exact bind_of_ok (rfl : sign ")" _ = .ok () rest)
  have hread : primary inner (pad ++ '(' :: (text ++ ')' :: rest)) =
      .ok (ops ++ [.unary .parens]) rest := by
    rw [primary, bind_of_ok (spacing_append hpad (by simp [isSpacing]))]
    exact orElse_of_ok hparens
  rw [List.cons_append, List.append_assoc, List.singleton_append, methods, hread]

/-- A method is read after what it is called on. -/
theorem ReadsAt.call (h : ReadsAt inner 0 text ops) {call : List Char} {callOps : Source.Expression}
    (hends : ∀ rest, Ends (call ++ rest))
    (hcall : ∀ rest, methodCall inner (call ++ rest) = .ok callOps rest)
    (hsome : call ≠ []) : ReadsAt inner 0 (text ++ call) (ops ++ callOps) := by
  obtain ⟨⟨c, cs, rfl, hspacing, hbang⟩, hread⟩ := h
  refine ⟨⟨c, cs ++ call, rfl, hspacing, hbang⟩, fun pad rest hpad _ => ?_⟩
  obtain ⟨count, hcount, hread⟩ := hread pad (call ++ rest) hpad (hends rest)
  have hlength := List.length_pos_iff.2 hsome
  rw [List.length_append] at hcount
  cases count with
  | zero => omega
  | succ count =>
    refine ⟨count, by omega, ?_⟩
    rw [List.append_assoc, hread, methodTail, hcall]

theorem ReadsAt.length (h : ReadsAt inner 0 text ops) :
    ReadsAt inner 0 (text ++ ".length()".toList) (ops ++ [.unary .length]) := by
  refine h.call (fun rest => ?_) (fun rest => ?_) (by decide)
  · simp [Ends, isSpacing]
  · have hname : name ("length".toList ++ '(' :: ')' :: rest) = .ok "length" ('(' :: ')' :: rest) :=
      name_append ⟨'l', "ength".toList, rfl, by decide, by decide⟩ (by simp [isNameChar])
    refine (bind_of_ok (rfl : sign "." _ = .ok () _)).trans ?_
    refine (bind_of_ok hname).trans ?_
    exact bind_of_ok (rfl : sign "(" _ = .ok () (')' :: rest))

theorem ReadsAt.method (h : ReadsAt inner 0 text ops) {which : Binary} {method : String}
    (hname : IsName method) (hne : method ≠ "length") (hmethod : methodNamed? method = some which)
    {argument : List Char} {argumentOps : Source.Expression}
    (hargument : inner.Reads (Stops 6) argument argumentOps) :
    ReadsAt inner 0 (text ++ '.' :: (method.toList ++ '(' :: (argument ++ [')'])))
      (ops ++ argumentOps ++ [.binary which]) := by
  rw [List.append_assoc]
  refine h.call (fun rest => ?_) (fun rest => ?_) (by simp)
  · simp [Ends, isSpacing]
  · have hread : name (method.toList ++ '(' :: (argument ++ ')' :: rest)) = .ok method _ :=
      name_append hname (by simp [isNameChar])
    simp only [List.cons_append, List.append_assoc, List.nil_append]
    refine (bind_of_ok (rfl : sign "." _ = .ok () _)).trans ?_
    refine (bind_of_ok hread).trans ?_
    refine (bind_of_ok (rfl : sign "(" _ = .ok () _)).trans ?_
    rw [if_neg hne, hmethod]
    refine (bind_of_ok (hargument [] _ (List.forall_mem_nil _) (stops_paren 6 rest))).trans ?_
    exact bind_of_ok (rfl : sign ")" _ = .ok () rest)

theorem ReadsAt.negate (h : ReadsAt inner 1 text ops) :
    ReadsAt inner 1 ('!' :: text) (ops ++ [.unary .negate]) := by
  intro count pad rest hcount hpad hrest
  cases count with
  | zero => simp at hcount
  | succ count =>
    have hsign : sign "!" (pad ++ ('!' :: text ++ rest)) = .ok () (text ++ rest) := by
      rw [sign, dropWhile_append (by simp [isSpacing]) hpad]
      rfl
    have hread := h count [] rest (Nat.le_of_succ_le_succ hcount) (List.forall_mem_nil _) hrest
    rw [List.nil_append] at hread
    rw [negations]
    dsimp only
    rw [hsign]
    dsimp only
    rw [hread]

/-- An operation goes on after its first operand. -/
theorem ReadsAt.operator {which : Binary} {level : Nat} {mark : String}
    (hmem : (mark, which) ∈ signs (level + 1))
    (hsign : ∀ text, oneSign (signs (level + 1)) (mark.toList ++ ' ' :: text) =
      .ok which (' ' :: text))
    (h : ReadsAt inner (level + 1) text ops) {right : List Char} {rightOps : Source.Expression}
    (hright : (leveled inner level).Reads (Stops level) right rightOps) :
    ReadsAt inner (level + 1) (text ++ ' ' :: (mark.toList ++ ' ' :: right))
      (ops ++ rightOps ++ [.binary which]) := by
  match level with
  | 0 => cases hmem
  | level + 1 =>
    intro pad rest hpad hrest
    obtain ⟨count, hcount, hread⟩ := h pad (' ' :: (mark.toList ++ ' ' :: (right ++ rest))) hpad
      (stops_operator hmem _)
    cases count with
    | zero => simp at hcount
    | succ count =>
      refine ⟨count, ?_, ?_⟩
      · simp only [List.length_cons, List.length_append] at hcount
        omega
      · obtain ⟨c, cs, hmark, -, hspacing, -⟩ := exists_of_mem_signs hmem
        dsimp only at hmark
        have hnext : (' ' :: (mark.toList ++ ' ' :: (right ++ rest))).dropWhile isSpacing =
            mark.toList ++ ' ' :: (right ++ rest) := by
          rw [hmark, List.dropWhile_cons_of_pos (by decide)]
          simp [hspacing]
        simp only [List.append_assoc, List.cons_append]
        rw [hread, chainTail, hnext, hsign]
        dsimp only
        rw [← List.singleton_append, hright [' '] rest (by simp [isSpacing]) hrest]
        dsimp only
        simp only [List.append_assoc]

/-- What is nested takes at least one level of nesting. -/
theorem reads_nestedExpression
    (h : ∀ {depth}, text.length ≤ depth → ReadsAt (nestedExpression depth) 6 text ops) {depth : Nat}
    (hdepth : text.length < depth) : (nestedExpression depth).Reads (Stops 6) text ops := by
  cases depth with
  | zero => omega
  | succ depth => exact (h (Nat.le_of_lt_succ hdepth)).reads

/-- Expressions are read from the texts of their trees, in which no parentheses are added. -/
theorem readsAt_text {good : α → Prop}
    (hgood : ∀ a, good a → Opens (print a).toList ∧ term.Reads Ends (print a).toList (value a))
    {level : Nat} {tree : Tree α} (h : tree.Fits good level) {depth : Nat}
    (hdepth : (tree.text print).toList.length ≤ depth) :
    ReadsAt (nestedExpression depth) level (tree.text print).toList
      (tree.map value).operations := by
  induction h generalizing depth with
  | value h => exact readsAt_value (hgood _ h).1 (hgood _ h).2
  | parens _ ih =>
    rw [Tree.toList_text_parens] at hdepth ⊢
    simp only [List.length_append, List.length_cons] at hdepth
    exact readsAt_parens (reads_nestedExpression ih (by omega))
  | length _ ih =>
    rw [Tree.toList_text_length] at hdepth ⊢
    rw [List.length_append] at hdepth
    exact (ih (by omega)).length
  | method hmethod _ _ ihl ihr =>
    obtain ⟨name, hname, hne, hnamed, hrender⟩ := Binary.exists_method hmethod
    rw [Tree.toList_text_method hrender] at hdepth ⊢
    simp only [List.length_append, List.length_cons] at hdepth
    exact (ihl (by omega)).method hname hne hnamed (reads_nestedExpression ihr (by omega))
  | negate _ ih =>
    rw [Tree.toList_text_negate] at hdepth ⊢
    exact (ih (Nat.le_of_succ_le hdepth)).negate
  | operator hlevel _ _ ihl ihr =>
    obtain ⟨mark, hmark, hmem, hsign⟩ := exists_sign hlevel
    rw [Tree.toList_text_operator hmark] at hdepth ⊢
    simp only [List.length_append, List.length_cons] at hdepth
    exact (ihl (by omega)).operator hmem hsign (ihr (by omega)).reads
  | tighter _ ih => exact (ih hdepth).succ

/-- A whole expression is read from the text of its tree. -/
theorem reads_expression {good : α → Prop}
    (hgood : ∀ a, good a → Opens (print a).toList ∧ term.Reads Ends (print a).toList (value a))
    {tree : Tree α} (h : tree.Fits good 6) :
    expression.Reads (Stops 6) (tree.text print).toList (tree.map value).operations := by
  intro pad rest hpad hrest
  refine reads_nestedExpression (readsAt_text hgood h) ?_ pad rest hpad hrest
  simp only [List.length_append]
  omega

end

end Grammar

end Warrant
