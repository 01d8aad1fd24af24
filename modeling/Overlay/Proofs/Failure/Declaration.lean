import Overlay.Proofs.Failure.Call
import Overlay.Proofs.Spacing.Declaration

/-!
Failures of attributes and declarations. Their texts are cut more than once, each time
in a part of what was cut before, so the parts have no defects that the whole has not.
The one cut that does not look at brackets is that of a list of literals: the first and
the last character are taken off, and they need not be a pair.
-/

namespace Overlay

open Text

/-- Whether a text stands in two square brackets that are no pair. -/
def Text.IsLooseList (t : Text) : Prop :=
  ∃ inner : Text, t = '[' :: inner ++ [']'] ∧ ¬ inner.IsBalanced

/-- Whether all failures of a computation are faults that a balanced text can have or, in
one case, a closing square bracket that is out of place. -/
abbrev SemanticUnless {α : Type} (loose : Prop) (x : Except Fault α) : Prop :=
  FailsOnly (fun e => e.IsSemantic ∨ e = .unmatchedClosing ']' ∧ loose) x

theorem Semantic.unless {α : Type} {x : Except Fault α} (h : Semantic x) (loose : Prop) :
    SemanticUnless loose x := h.mono fun _ => .inl

theorem SemanticUnless.mono {α : Type} {loose loose' : Prop} {x : Except Fault α}
    (h : SemanticUnless loose x) (himp : loose → loose') : SemanticUnless loose' x :=
  FailsOnly.mono h fun _ he => he.imp_right fun ⟨he, hloose⟩ => ⟨he, himp hloose⟩

theorem semantic_checkName (t : Text) : Semantic (checkName t) := by
  unfold checkName
  split
  · exact .error ⟨rfl, rfl⟩
  · split
    · exact .error ⟨rfl, rfl⟩
    · exact .ok _

/-! Attributes. -/

theorem semantic_splitAttribute {t : Text} (h : t.IsBalanced) : Semantic (splitAttribute t) := by
  refine (h.semantic_split _ _).bind fun parts _ => ?_
  split
  · split
    · exact .ok _
    · exact .error ⟨rfl, rfl⟩
  · exact .error ⟨rfl, rfl⟩

theorem isBalanced_of_splitAttribute {t key value : Text}
    (h : splitAttribute t = .ok (key, value)) : value.IsBalanced := by
  obtain ⟨parts, hparts, h⟩ := Except.bind_eq_ok_iff.1 h
  split at h
  · split at h
    · cases h
      exact .of_mem_split (List.cons_ne_nil _ _) hparts (by simp)
    · cases h
  · cases h

theorem Keyed.semantic_insertNew {α : Type} (m : Keyed α) (key : Text) (value : α) :
    Semantic (m.insertNew key value) := by
  unfold insertNew
  split
  · exact .error ⟨rfl, rfl⟩
  · exact .ok _

namespace Metadata

theorem semantic_add (m : Metadata) {t : Text} (h : t.IsBalanced) : Semantic (m.add t) := by
  refine (semantic_splitAttribute h).bind fun ⟨key, value⟩ _ => ?_
  exact (Literal.semantic_ofText value).bind fun l _ => m.semantic_insertNew key l

theorem semantic_ofText (t : Text) : Semantic (ofText t) := by
  refine (Method.semantic_arguments _ t).bind fun ts hts => ?_
  refine (Method.semantic_expectAtLeast _ ts 1).bind fun _ _ => ?_
  exact .foldlM fun s hs m => semantic_add m (Method.isBalanced_of_mem_arguments hts hs)

end Metadata

namespace Criterion

theorem semanticUnless_literalsOf {t : Text} (h : t.IsBalanced) :
    SemanticUnless t.IsLooseList (literalsOf t) := by
  unfold literalsOf
  split
  · exact ((Literal.semantic_ofText t).unless _).bind fun _ _ => .ok _
  · next inner hinner =>
    obtain rfl := inSquare_eq_some_iff.1 hinner
    split
    · exact .error (.inl ⟨rfl, rfl⟩)
    · refine FailsOnly.bind (fun e he => ?_) fun ts _ => ?_
      · obtain ⟨rfl, hloose⟩ := IsBalanced.eq_of_split_square h he
        exact .inr ⟨rfl, inner, rfl, hloose⟩
      · exact .mapM fun s _ => (Literal.semantic_ofText s).unless _

theorem semantic_countOf (t : Text) : Semantic (countOf t) := by
  refine (Literal.semantic_ofText t).bind fun l _ => ?_
  split
  · split
    · exact .ok _
    · exact .error ⟨rfl, rfl⟩
  · exact .error ⟨rfl, rfl⟩

end Criterion

namespace Query

/-- Whether the value of an attribute is a list whose brackets are no pair. -/
def AddsLooseList (t : Text) : Prop :=
  ∃ key value, splitAttribute t = .ok (key, value) ∧ key ≠ multi ∧ value.IsLooseList

theorem semanticUnless_add (q : Query) {t : Text} (h : t.IsBalanced) :
    SemanticUnless (AddsLooseList t) (q.add t) := by
  refine ((semantic_splitAttribute h).unless _).bind fun ⟨key, value⟩ hsplit => ?_
  have hvalue := isBalanced_of_splitAttribute hsplit
  have hinsert (c : Criterion) : SemanticUnless (AddsLooseList t) (q.insertNew key c) :=
    (q.semantic_insertNew key c).unless _
  dsimp only
  split
  · have hcount := (Criterion.semantic_countOf value).unless (AddsLooseList t)
    exact FailsOnly.bind (hcount.map _) fun c _ => hinsert c
  · next hkey =>
    have hliterals : SemanticUnless (AddsLooseList t) (Criterion.literalsOf value) :=
      (Criterion.semanticUnless_literalsOf hvalue).mono fun hloose =>
        ⟨key, value, hsplit, hkey, hloose⟩
    exact FailsOnly.bind (hliterals.map _) fun c _ => hinsert c

/-- Whether some attribute of a query has such a list for its value. -/
def HasLooseList (t : Text) : Prop :=
  ∃ ts, Method.discovery.arguments t = .ok ts ∧ ∃ s ∈ ts, AddsLooseList s

theorem semanticUnless_ofText (t : Text) : SemanticUnless (HasLooseList t) (ofText t) := by
  refine ((Method.semantic_arguments _ t).unless _).bind fun ts hts => ?_
  refine FailsOnly.bind ?_ fun _ _ => .ok _
  refine .foldlM fun s hs q => ?_
  have hadd := semanticUnless_add q (Method.isBalanced_of_mem_arguments hts hs)
  exact hadd.mono fun hloose => ⟨ts, hts, s, hs, hloose⟩

end Query

/-! Declarations. -/

theorem semantic_splitDeclaration {t : Text} (h : t.IsBalanced) :
    Semantic (splitDeclaration t) := by
  refine (h.semantic_split _ _).bind fun parts _ => ?_
  split
  · split
    · exact .error ⟨rfl, rfl⟩
    · exact .ok _
  · exact .error ⟨rfl, rfl⟩

theorem semantic_serviceName (t : Text) : Semantic (serviceName t) := by
  unfold serviceName
  split
  · exact .error ⟨rfl, rfl⟩
  · exact (semantic_checkName _).bind fun _ _ => .ok _

/-- Whether the query of a service has such a list. -/
def Service.HasLooseList (u : SourceUnit) : Prop :=
  ∃ name query, splitDeclaration u.text = .ok (name, query) ∧ Query.HasLooseList query

theorem Service.semanticUnless_read {u : SourceUnit} (h : u.text.IsBalanced) :
    SemanticUnless (HasLooseList u) (read u) := by
  refine ((semantic_splitDeclaration h).unless _).bind fun ⟨name, query⟩ hsplit => ?_
  refine ((semantic_serviceName name).unless _).bind fun _ _ => ?_
  have hquery : SemanticUnless (HasLooseList u) (Query.ofText query) :=
    (Query.semanticUnless_ofText query).mono fun hloose => ⟨name, query, hsplit, hloose⟩
  exact FailsOnly.bind hquery fun _ _ => .ok _

theorem Endpoint.semantic_read (kind : EndpointKind) {u : SourceUnit} (h : u.text.IsBalanced) :
    Semantic (read kind u) := by
  have hkeyword : ∀ c ∈ kind.construct.name.toList, isPlain c = true := by
    cases kind <;> decide
  unfold read
  split
  · exact .error ⟨rfl, rfl⟩
  · next rest hrest =>
    rw [dropPrefix?_eq_some_iff.1 hrest] at h
    refine (semantic_splitDeclaration (h.of_plain_append hkeyword).trim).bind ?_
    intro ⟨name, owner⟩ _
    refine (semantic_checkName name).bind fun _ _ => ?_
    exact (semantic_serviceName owner).bind fun _ _ => .ok _

end Overlay
