import Mathlib.Data.List.Forall2
import Warrant.Join
import Warrant.Proofs.Evaluation

namespace Warrant

namespace Valuation

/-- A valuation that another one agrees with wherever it has a term. -/
def Within (σ τ : Valuation) : Prop := ∀ v t, σ v = some t → τ v = some t

theorem Within.refl (σ : Valuation) : σ.Within σ := fun _ _ h => h

theorem Within.trans {σ τ υ : Valuation} (h : σ.Within τ) (h' : τ.Within υ) : σ.Within υ :=
  fun v t hv => h' v t (h v t hv)

theorem Within.under {σ τ : Valuation} (h : σ.Within τ) {pattern t : Term}
    (hpattern : pattern.under σ = some t) : pattern.under τ = some t := by
  cases pattern with
  | var v => exact h v t hpattern
  | _ => exact hpattern

end Valuation

/-- A predicate with its variables replaced, if all of them stand for terms. -/
def PredicateOf.substitute (σ : Valuation) (p : Predicate) : Option Fact :=
  (p.terms.mapM (TermOf.under σ)).map fun terms => ⟨p.name, terms⟩

/-- Arguments stand for terms one by one. -/
theorem mapM_under_eq_some_iff {σ : Valuation} {patterns terms : List Term} :
    patterns.mapM (TermOf.under σ) = some terms ↔
      List.Forall₂ (fun pattern t => pattern.under σ = some t) patterns terms := by
  induction patterns generalizing terms with
  | nil => cases terms <;> simp
  | cons pattern patterns ih =>
    rw [List.mapM_cons]
    cases hp : pattern.under σ with
    | none => cases terms <;> simp [hp]
    | some t =>
      cases hps : patterns.mapM (TermOf.under σ) with
      | none =>
        cases terms with
        | nil => simp
        | cons first rest => simp [hp, ← ih, hps]
      | some ts =>
        cases terms with
        | nil => simp
        | cons first rest => simp [hp, ← ih, hps]

theorem PredicateOf.substitute_eq_some_iff {σ : Valuation} {p : Predicate} {fact : Fact} :
    p.substitute σ = some fact ↔ p.name = fact.name ∧
      List.Forall₂ (fun pattern t => pattern.under σ = some t) p.terms fact.terms := by
  obtain ⟨name, terms⟩ := fact
  simp only [substitute, Option.map_eq_some_iff, mapM_under_eq_some_iff, PredicateOf.mk.injEq]
  constructor
  · rintro ⟨ts, hts, rfl, rfl⟩
    exact ⟨rfl, hts⟩
  · rintro ⟨rfl, hts⟩
    exact ⟨terms, hts, rfl, rfl⟩

theorem PredicateOf.substitute_mono {σ τ : Valuation} (h : σ.Within τ) {p : Predicate}
    {fact : Fact} (hp : p.substitute σ = some fact) : p.substitute τ = some fact := by
  rw [substitute_eq_some_iff] at hp ⊢
  exact ⟨hp.1, hp.2.imp fun _ _ hterm => h.under hterm⟩

theorem PredicateOf.instantiate_eq_substitute (p : Predicate) (bindings : Bindings) :
    p.instantiate bindings = p.substitute bindings.valuation := by
  have h : TermOf.lookup bindings = TermOf.under bindings.valuation :=
    funext (TermOf.lookup_eq_under bindings)
  rw [instantiate, substitute, h]

namespace Slots

def names (slots : Slots) : List UInt32 := slots.entries.map Prod.fst

/-- The terms that variables have been bound to. -/
def valuation (slots : Slots) : Valuation := fun v => (slots.entries.lookup v).join

theorem names_unbound (names : List UInt32) : (unbound names).names = SortedList.ofList names := by
  simp [unbound, Slots.names, Function.comp_def]

theorem valuation_unbound (names : List UInt32) : (unbound names).valuation = fun _ => none := by
  funext v
  simp only [valuation, unbound]
  induction SortedList.ofList names with
  | nil => rfl
  | cons w ws ih =>
    rw [List.map_cons, List.lookup_cons]
    cases v == w with
    | false => exact ih
    | true => rfl

/-- A variable that can be bound is bound to the term, and all else stays. -/
theorem bindIn_eq_some {v : UInt32} {t : Term} {entries bound : List (UInt32 × Option Term)}
    (h : bindIn v t entries = some bound) :
    bound.map Prod.fst = entries.map Prod.fst ∧ (bound.lookup v).join = some t ∧
      (∀ t', (entries.lookup v).join = some t' → t' = t) ∧
      ∀ w, w ≠ v → bound.lookup w = entries.lookup w := by
  induction entries generalizing bound with
  | nil => cases h
  | cons entry rest ih =>
    obtain ⟨w, slot⟩ := entry
    by_cases hw : v = w
    · subst hw
      rw [bindIn, if_pos rfl] at h
      by_cases hslot : slot.getD t = t
      · rw [if_pos hslot, Option.some.injEq] at h
        subst h
        refine ⟨rfl, by simp, ?_, ?_⟩
        · rintro t' ht'
          simp only [List.lookup_cons, BEq.rfl, Option.join_some] at ht'
          simpa [ht'] using hslot
        · intro w hw
          have hne : (w == v) = false := by simpa using hw
          simp [List.lookup_cons, hne]
      · rw [if_neg hslot] at h
        cases h
    · rw [bindIn, if_neg hw, Option.map_eq_some_iff] at h
      obtain ⟨tail, htail, rfl⟩ := h
      obtain ⟨hnames, hv, hold, hothers⟩ := ih htail
      have hne : (v == w) = false := by simpa using hw
      refine ⟨by simp [hnames], by simpa [List.lookup_cons, hne] using hv,
        by simpa [List.lookup_cons, hne] using hold, ?_⟩
      intro u hu
      rw [List.lookup_cons, List.lookup_cons, hothers u hu]

/-- A variable that has an entry can be bound, unless it is bound to another term. -/
theorem exists_bindIn {v : UInt32} {t : Term} {entries : List (UInt32 × Option Term)}
    (hmem : v ∈ entries.map Prod.fst) (hold : ∀ t', (entries.lookup v).join = some t' → t' = t) :
    ∃ bound, bindIn v t entries = some bound := by
  induction entries with
  | nil => simp at hmem
  | cons entry rest ih =>
    obtain ⟨w, slot⟩ := entry
    by_cases hw : v = w
    · subst hw
      have hslot : slot.getD t = t := by
        cases slot with
        | none => rfl
        | some t' => exact hold t' (by simp)
      exact ⟨(v, some t) :: rest, by rw [bindIn, if_pos rfl, if_pos hslot]⟩
    · have hne : (v == w) = false := by simpa using hw
      obtain ⟨bound, hbound⟩ := ih (by simpa [hw] using hmem)
        (by simpa [List.lookup_cons, hne] using hold)
      exact ⟨(w, slot) :: bound, by rw [bindIn, if_neg hw, hbound]; rfl⟩

theorem bind_eq_some {slots bound : Slots} {v : UInt32} {t : Term}
    (h : slots.bind v t = some bound) :
    bound.names = slots.names ∧ slots.valuation.Within bound.valuation ∧
      bound.valuation v = some t ∧
      ∀ σ : Valuation, slots.valuation.Within σ → σ v = some t → bound.valuation.Within σ := by
  obtain ⟨entries, hentries, rfl⟩ := Option.map_eq_some_iff.1 h
  obtain ⟨hnames, hv, hold, hothers⟩ := bindIn_eq_some hentries
  refine ⟨hnames, ?_, hv, ?_⟩
  · intro w t' hw
    by_cases heq : w = v
    · subst heq
      rw [hold t' hw]
      exact hv
    · simpa [valuation, hothers w heq] using hw
  · intro σ hσ hσv w t' hw
    by_cases heq : w = v
    · subst heq
      simp only [valuation, hv, Option.some.injEq] at hw
      rw [← hw]
      exact hσv
    · exact hσ w t' (by simpa [valuation, hothers w heq] using hw)

theorem exists_bind {slots : Slots} {v : UInt32} {t : Term} (hmem : v ∈ slots.names)
    {σ : Valuation} (hσ : slots.valuation.Within σ) (hv : σ v = some t) :
    ∃ bound, slots.bind v t = some bound := by
  obtain ⟨entries, hentries⟩ := exists_bindIn (t := t) hmem (by
    intro t' ht'
    have := hσ v t' ht'
    rw [hv] at this
    exact (Option.some.inj this).symm)
  exact ⟨⟨entries⟩, by simp [bind, hentries]⟩

/-- Binding the variables of a pattern makes the pattern stand for the terms. -/
theorem bindTerms_eq_some {patterns terms : List Term} {slots bound : Slots}
    (hfits : List.Forall₂ (fun pattern t => pattern.admits t = true) patterns terms)
    (h : bindTerms patterns terms slots = some bound) :
    bound.names = slots.names ∧ slots.valuation.Within bound.valuation ∧
      List.Forall₂ (fun pattern t => pattern.under bound.valuation = some t) patterns terms := by
  induction hfits generalizing slots with
  | nil =>
    cases h
    exact ⟨rfl, .refl _, .nil⟩
  | @cons pattern t patterns terms hpattern _ ih =>
    cases pattern with
    | var v =>
      obtain ⟨first, hfirst, hrest⟩ := Option.bind_eq_some_iff.1 h
      obtain ⟨hnames, hwithin, hv, _⟩ := bind_eq_some hfirst
      obtain ⟨hnames', hwithin', hterms⟩ := ih hrest
      exact ⟨hnames'.trans hnames, hwithin.trans hwithin', .cons (hwithin' v t hv) hterms⟩
    | _ =>
      obtain ⟨hnames, hwithin, hterms⟩ := ih h
      refine ⟨hnames, hwithin, .cons ?_ hterms⟩
      cases t <;> simp_all [TermOf.admits, TermOf.asVariable?, TermOf.under]

/-- A pattern that stands for terms under a valuation can be bound within the valuation. -/
theorem exists_bindTerms {σ : Valuation} {patterns terms : List Term} (slots : Slots)
    (hterms : List.Forall₂ (fun pattern t => pattern.under σ = some t) patterns terms)
    (hnames : ∀ v ∈ patterns.filterMap TermOf.asVariable?, v ∈ slots.names)
    (hσ : slots.valuation.Within σ) :
    ∃ bound, bindTerms patterns terms slots = some bound ∧ bound.valuation.Within σ := by
  induction hterms generalizing slots with
  | nil => exact ⟨slots, rfl, hσ⟩
  | @cons pattern t patterns terms hpattern _ ih =>
    cases pattern with
    | var v =>
      have hmem : v ∈ slots.names := hnames v (by simp [TermOf.asVariable?])
      obtain ⟨first, hfirst⟩ := exists_bind hmem hσ hpattern
      obtain ⟨hfirstNames, _, _, hbest⟩ := bind_eq_some hfirst
      obtain ⟨bound, hbound, hwithin⟩ := ih first
        (fun w hw => by
          rw [hfirstNames]
          exact hnames w (by simp [TermOf.asVariable?, hw]))
        (hbest σ hσ hpattern)
      exact ⟨bound, by rw [bindTerms, hfirst]; exact hbound, hwithin⟩
    | _ => exact ih slots (fun w hw => hnames w (by simpa [TermOf.asVariable?] using hw)) hσ

/-- A binding that is complete has a term for every variable and for no other. -/
theorem complete?_eq_some {slots : Slots} {bindings : Bindings}
    (h : slots.complete? = some bindings) :
    bindings.valuation = slots.valuation ∧
      ∀ v, v ∈ slots.names ↔ (slots.valuation v).isSome := by
  obtain ⟨entries⟩ := slots
  induction entries generalizing bindings with
  | nil =>
    cases h
    exact ⟨rfl, by simp [names, valuation]⟩
  | cons entry rest ih =>
    obtain ⟨w, slot⟩ := entry
    cases slot with
    | none => simp [complete?] at h
    | some t =>
      simp only [complete?, List.mapM_cons, Option.map_some, Option.bind_eq_bind,
        Option.bind_some, Option.bind_eq_some_iff] at h
      obtain ⟨others, hothers, hbindings⟩ := h
      cases hbindings
      obtain ⟨hvaluation, hnames⟩ := ih hothers
      constructor
      · funext v
        have hv := congrFun hvaluation v
        simp only [Bindings.valuation, valuation] at hv ⊢
        rw [List.lookup_cons, List.lookup_cons]
        cases v == w with
        | false => exact hv
        | true => rfl
      · intro v
        have hv := hnames v
        simp only [names, valuation, List.map_cons, List.mem_cons] at hv ⊢
        rw [List.lookup_cons]
        by_cases hw : v = w
        · simp [hw]
        · have hne : (v == w) = false := by simpa using hw
          simpa [hw, hne] using hv

/-- Complete slots hold nothing but their bindings. -/
theorem entries_of_complete? {slots : Slots} {bindings : Bindings}
    (h : slots.complete? = some bindings) :
    slots.entries = bindings.map fun binding => (binding.1, some binding.2) := by
  obtain ⟨entries⟩ := slots
  induction entries generalizing bindings with
  | nil =>
    cases h
    rfl
  | cons entry rest ih =>
    obtain ⟨w, slot⟩ := entry
    cases slot with
    | none => simp [complete?] at h
    | some t =>
      simp only [complete?, List.mapM_cons, Option.map_some, Option.bind_eq_bind,
        Option.bind_some, Option.bind_eq_some_iff] at h
      obtain ⟨others, hothers, hbindings⟩ := h
      cases hbindings
      rw [List.map_cons, ← ih hothers]

/-- A binding of distinct variables that has a term for each is complete. -/
theorem exists_complete? {slots : Slots} (hnodup : slots.names.Nodup)
    (hbound : ∀ v ∈ slots.names, (slots.valuation v).isSome) :
    ∃ bindings, slots.complete? = some bindings := by
  obtain ⟨entries⟩ := slots
  induction entries with
  | nil => exact ⟨[], rfl⟩
  | cons entry rest ih =>
    obtain ⟨w, slot⟩ := entry
    obtain ⟨hw, hrest⟩ := List.nodup_cons.1 (by simpa [names] using hnodup :
      (w :: rest.map Prod.fst).Nodup)
    have hslot : slot.isSome := by simpa [names, valuation] using hbound w (by simp [names])
    obtain ⟨t, rfl⟩ := Option.isSome_iff_exists.1 hslot
    obtain ⟨bindings, hbindings⟩ := ih hrest (by
      intro v hv
      have hne : (v == w) = false := by
        simp only [beq_eq_false_iff_ne]
        rintro rfl
        exact hw hv
      have := hbound v (List.mem_cons_of_mem w hv)
      simpa [valuation, List.lookup_cons, hne] using this)
    refine ⟨(w, t) :: bindings, ?_⟩
    simp only [complete?] at hbindings ⊢
    simp [List.mapM_cons, hbindings]

end Slots

theorem exists_of_forall₂ {α β : Type} {R : α → β → Prop} {xs : List α} {ys : List β}
    (h : List.Forall₂ R xs ys) {x : α} (hx : x ∈ xs) : ∃ y ∈ ys, R x y := by
  induction h with
  | nil => cases hx
  | cons hxy _ ih =>
    rcases List.mem_cons.1 hx with rfl | hx
    · exact ⟨_, List.mem_cons_self, hxy⟩
    · obtain ⟨y, hy, hR⟩ := ih hx
      exact ⟨y, List.mem_cons_of_mem _ hy, hR⟩

theorem TermOf.asVariable?_of_admits {pattern t : Term} (h : pattern.admits t = true) :
    t.asVariable? = none := by
  cases t with
  | var v => cases h
  | _ => rfl

theorem TermOf.admits_of_under {σ : Valuation} {pattern t : Term} (h : pattern.under σ = some t)
    (ht : t.asVariable? = none) : pattern.admits t = true := by
  cases t with
  | var v => cases ht
  | _ => cases pattern <;> simp_all [TermOf.admits, TermOf.asVariable?, TermOf.under]

namespace PredicateOf

theorem admits_iff {pattern : Predicate} {fact : Fact} :
    pattern.admits fact = true ↔ pattern.name = fact.name ∧
      List.Forall₂ (fun p t => TermOf.admits p t = true) pattern.terms fact.terms := by
  simp only [admits, Bool.and_eq_true, beq_iff_eq, List.all_eq_true, List.forall₂_iff_zip,
    and_assoc, Prod.forall]

/-- A pattern admits what it can stand for, where that has no variables. -/
theorem admits_of_substitute {pattern : Predicate} {fact : Fact} {σ : Valuation}
    (h : pattern.substitute σ = some fact) (hfact : fact.argVariables = []) :
    pattern.admits fact = true := by
  obtain ⟨hname, hterms⟩ := substitute_eq_some_iff.1 h
  refine admits_iff.2 ⟨hname, List.forall₂_iff_zip.2 ⟨hterms.length_eq, ?_⟩⟩
  intro p t hmem
  exact TermOf.admits_of_under (List.forall₂_zip hterms hmem)
    (List.filterMap_eq_nil_iff.1 hfact t (List.of_mem_zip hmem).2)

theorem argVariables_of_admits {pattern : Predicate} {fact : Fact}
    (h : pattern.admits fact = true) : fact.argVariables = [] := by
  refine List.filterMap_eq_nil_iff.2 fun t ht => ?_
  obtain ⟨p, _, hp⟩ := exists_of_forall₂ (admits_iff.1 h).2.flip ht
  exact TermOf.asVariable?_of_admits hp

/-- Every variable of a predicate that stands for a fact has a term. -/
theorem isSome_of_substitute {σ : Valuation} {p : Predicate} {fact : Fact}
    (h : p.substitute σ = some fact) {v : UInt32} (hv : v ∈ p.argVariables) : (σ v).isSome := by
  obtain ⟨pattern, hpattern, hvar⟩ := List.mem_filterMap.1 hv
  obtain ⟨t, _, ht⟩ := exists_of_forall₂ (substitute_eq_some_iff.1 h).2 hpattern
  cases pattern with
  | var w =>
    cases hvar
    exact Option.isSome_iff_exists.2 ⟨t, ht⟩
  | _ => cases hvar

/-- Matching a pattern with a fact binds its variables so that it stands for the fact. -/
theorem unify_eq_some {p : Predicate} {fact : Fact} {slots bound : Slots}
    (h : p.unify fact slots = some bound) :
    bound.names = slots.names ∧ slots.valuation.Within bound.valuation ∧
      p.substitute bound.valuation = some fact ∧ fact.argVariables = [] := by
  unfold unify at h
  split at h
  · rename_i hadmits
    obtain ⟨hname, hterms⟩ := admits_iff.1 hadmits
    obtain ⟨hnames, hwithin, hbound⟩ := Slots.bindTerms_eq_some hterms h
    exact ⟨hnames, hwithin, substitute_eq_some_iff.2 ⟨hname, hbound⟩,
      argVariables_of_admits hadmits⟩
  · cases h

theorem exists_unify {σ : Valuation} {p : Predicate} {fact : Fact} {slots : Slots}
    (hp : p.substitute σ = some fact) (hfact : fact.argVariables = [])
    (hnames : ∀ v ∈ p.argVariables, v ∈ slots.names) (hσ : slots.valuation.Within σ) :
    ∃ bound, p.unify fact slots = some bound ∧ bound.valuation.Within σ := by
  obtain ⟨_, hterms⟩ := substitute_eq_some_iff.1 hp
  obtain ⟨bound, hbound, hwithin⟩ := Slots.exists_bindTerms slots hterms hnames hσ
  exact ⟨bound, by rw [unify, if_pos (admits_of_substitute hp hfact), hbound], hwithin⟩

end PredicateOf

end Warrant
