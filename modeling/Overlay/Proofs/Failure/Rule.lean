import Overlay.Proofs.Failure.Declaration
import Overlay.Proofs.Failure.Processing
import Overlay.Rule.Basic

/-!
Failures of rules. A call in a chain is cut and read on its own, so all that a rule asks
for is that its whole text is balanced. For a call with any number of arguments the format
is made as long as the list of its arguments.
-/

namespace Overlay

open Text
open Argument (semantic_nth_bind shows_text shows_literal shows_integer shows_untyped)

namespace Text.IsBalanced

theorem dropBlank {t : Text} (h : t.IsBalanced) : t.dropBlank.IsBalanced := by
  obtain ⟨b, hb, heq⟩ := exists_dropBlank t
  rw [heq] at h
  exact h.of_plain_append (forall_plain_of_allBlank hb)

theorem restOfLine? {t rest : Text} (h : t.IsBalanced) (hrest : t.restOfLine? = some rest) :
    rest.IsBalanced := by
  simp only [Text.restOfLine?] at hrest
  split at hrest
  · cases hrest
  · cases hrest
    exact h.dropBlank

/-- What follows a name and a mark. -/
theorem nameThen? {mark t name rest : Text} (hmark : ∀ c ∈ mark, isPlain c = true)
    (h : t.IsBalanced) (hname : nameThen? mark t = some (name, rest)) : rest.IsBalanced := by
  obtain ⟨after, hleading, hafter⟩ := nameThen?_eq_some_iff.1 hname
  obtain ⟨hisName, rfl, -⟩ := leadingName?_eq_some_iff.1 hleading
  have hplain : ∀ c ∈ name, isPlain c = true := fun c hc => (isSolid_of_isName hisName c hc).1
  have hdrop := (h.of_plain_append hplain).dropBlank
  rw [hafter] at hdrop
  exact hdrop.of_plain_append hmark

end Text.IsBalanced

/-- The arguments at some positions, all of which are names. -/
theorem Argument.semantic_mapM_text {format : List (List ArgumentType)} {args : List Argument}
    (h : List.Forall₂ Fits format args) {indices : List Nat}
    (hindices : ∀ index ∈ indices, format[index]? = some [.dataName]) :
    Semantic (indices.mapM (nth text? args)) :=
  .mapM fun index hindex =>
    .of_ok (exists_nth shows_text h (hindices index hindex) (by decide))

theorem semantic_selection (t : Text) : Semantic (selection t) := by
  refine (Method.semantic_arguments _ t).bind fun ts hts => ?_
  refine (Method.semantic_expectAtLeast _ ts 1).bind fun _ _ => ?_
  refine (Method.semantic_convert _ ts _).bind fun args hargs => ?_
  have hfits := Method.fits_of_convert (fun _ hs => Method.isBalanced_of_mem_arguments hts hs)
    List.length_replicate.symm hargs
  refine Argument.semantic_mapM_text hfits fun index hindex => ?_
  rw [List.mem_range, ← hfits.length_eq, List.length_replicate] at hindex
  exact List.getElem?_replicate_of_lt hindex

theorem Qos.semantic_ofText (t : Text) : Semantic (ofText t) := by
  refine Method.semantic_call_bind fun args hargs => ?_
  refine semantic_nth_bind shows_literal hargs rfl (by decide) fun bandwidth _ => ?_
  refine (semantic_checkPositive _ bandwidth).bind fun _ _ => ?_
  exact semantic_nth_bind shows_integer hargs rfl (by decide) fun _ _ => .ok _

theorem semantic_identifier (t : Text) : Semantic (identifier t) := by
  refine Method.semantic_call_bind fun args hargs => ?_
  refine semantic_nth_bind shows_text hargs rfl (by decide) fun id _ => ?_
  split
  · exact .error ⟨rfl, rfl⟩
  · exact .ok _

namespace Chain

theorem semantic_setOnce {α : Type} (m : Method) (place : Option α) {value : Except Fault α}
    (h : Semantic value) : Semantic (setOnce m place value) := by
  refine h.bind fun a _ => ?_
  split
  · exact .error ⟨rfl, rfl⟩
  · exact .ok _

theorem semantic_add (kind : EndpointKind) (c : Chain) (t : Text) : Semantic (add kind c t) := by
  unfold add
  split
  · exact (semantic_setOnce _ _ (semantic_selection t)).bind fun _ _ => .ok _
  · exact (semantic_setOnce _ _ (Metadata.semantic_ofText t)).bind fun _ _ => .ok _
  · exact (semantic_setOnce _ _ (Qos.semantic_ofText t)).bind fun _ _ => .ok _
  · exact (semantic_setOnce _ _ (semantic_identifier t)).bind fun _ _ => .ok _
  · exact (Processing.semantic_ofText _ t).bind fun _ _ => .ok _
  · exact .error ⟨rfl, rfl⟩

theorem semantic_ofText (kind : EndpointKind) {t : Text} (h : t.IsBalanced) :
    Semantic (ofText kind t) := by
  refine (h.semantic_split _ _).bind fun ts _ => ?_
  refine (semantic_checkName _).bind fun _ _ => ?_
  exact .foldlM fun s _ c => semantic_add kind c s

end Chain

namespace StateBlock

theorem semantic_serviceOfChannel (s : StateBlock) (name : Text) :
    Semantic (s.serviceOfChannel name) := by
  unfold serviceOfChannel
  split
  · exact .ok _
  · exact .error ⟨rfl, rfl⟩

theorem semantic_serviceOfScratch (s : StateBlock) (name : Text) :
    Semantic (s.serviceOfScratch name) := by
  unfold serviceOfScratch
  split
  · exact .ok _
  · exact .error ⟨rfl, rfl⟩

end StateBlock

theorem Transmission.semantic_read (s : StateBlock) {u : SourceUnit} (h : u.text.IsBalanced) :
    Semantic (read s u) := by
  refine (h.semantic_split _ _).bind fun parts hparts => ?_
  have hpart {p : Text} (hp : p ∈ parts) : p.IsBalanced :=
    .of_mem_split (List.cons_ne_nil _ _) hparts hp
  split
  · refine (Chain.semantic_ofText .channel (hpart (by simp))).bind fun channel _ => ?_
    refine (Chain.semantic_ofText .scratch (hpart (by simp))).bind fun scratch _ => ?_
    refine (s.semantic_serviceOfChannel _).bind fun _ _ => ?_
    exact (s.semantic_serviceOfScratch _).bind fun _ _ => .ok _
  · exact .error ⟨rfl, rfl⟩

namespace Trigger

/-- What follows the sign of a trigger. -/
theorem isBalanced_of_head? {t event rest : Text} {switch : Switch} (ht : t.IsBalanced)
    (h : head? t = some (event, switch, rest)) : rest.IsBalanced := by
  simp only [head?, Option.bind_eq_bind, Option.bind_eq_some_iff, Prod.exists] at h
  obtain ⟨name, after, hname, h⟩ := h
  have hafter := ht.nameThen? (by decide) hname
  split at h
  · obtain ⟨rest, hrest, heq⟩ := Option.map_eq_some_iff.1 h
    cases heq
    exact (hafter.of_plain_append (u := ['+']) (by decide)).restOfLine? hrest
  · obtain ⟨rest, hrest, heq⟩ := Option.map_eq_some_iff.1 h
    cases heq
    exact (hafter.of_plain_append (u := ['-']) (by decide)).restOfLine? hrest
  · cases h

theorem semantic_readCount (t : Text) : Semantic (readCount t) := by
  unfold readCount
  split
  · split
    · exact .ok _
    · exact .error ⟨rfl, rfl⟩
  · exact .error ⟨rfl, rfl⟩

theorem semantic_read (s : StateBlock) {u : SourceUnit} (h : u.text.IsBalanced) :
    Semantic (read s u) := by
  unfold read
  split
  · exact .error ⟨rfl, rfl⟩
  · next event switch rest hhead =>
    refine (semantic_checkName event).bind fun _ _ => ?_
    refine ((isBalanced_of_head? h hhead).semantic_split _ _).bind fun parts _ => ?_
    split
    · next channel call _ =>
      refine (semantic_checkName channel).bind fun _ _ => ?_
      refine Method.semantic_call_bind fun args hargs => ?_
      refine semantic_nth_bind shows_literal hargs rfl (by decide) fun interval _ => ?_
      refine (semantic_checkPositive _ interval).bind fun _ _ => ?_
      refine semantic_nth_bind shows_untyped hargs rfl (by decide) fun count _ => ?_
      refine (semantic_readCount count).bind fun _ _ => ?_
      refine semantic_nth_bind shows_untyped hargs rfl (by decide) fun condition hcondition => ?_
      have hbalanced := Argument.isBalanced_of_nth hargs hcondition
      refine (Condition.semantic_ofText hbalanced).bind fun _ _ => ?_
      split
      · exact .error ⟨rfl, rfl⟩
      · exact .ok _
    · exact .error ⟨rfl, rfl⟩

end Trigger

namespace Merge

theorem semantic_splitVirtual (kind : MergeKind) (ts : List Text) :
    Semantic (splitVirtual kind ts) := by
  unfold splitVirtual
  split
  · split
    · exact (VirtualProperty.semantic_ofText _).bind fun _ _ => .ok _
    · exact .ok _
  · exact .ok _

theorem subset_of_splitVirtual {kind : MergeKind} {ts rest : List Text}
    {virtual : Option VirtualProperty} (h : splitVirtual kind ts = .ok (rest, virtual)) :
    rest ⊆ ts := by
  unfold splitVirtual at h
  split at h
  · split at h
    · obtain ⟨_, -, heq⟩ := Except.bind_eq_ok_iff.1 h
      cases heq
      exact List.dropLast_subset ts
    · cases h
      exact List.Subset.refl ts
  · cases h
    exact List.Subset.refl ts

theorem semantic_checkDelay (kind : MergeKind) (delay : Literal) :
    Semantic (checkDelay kind delay) := by
  unfold checkDelay
  split
  · exact .ok _
  · exact .error ⟨rfl, rfl⟩

theorem semantic_checkChannels (s : StateBlock) (names : List Text) :
    Semantic (checkChannels s names) := by
  unfold checkChannels
  split
  · exact .error ⟨rfl, rfl⟩
  · exact .ok _

theorem semantic_read (s : StateBlock) (u : SourceUnit) : Semantic (read s u) := by
  unfold read
  split
  · exact .error ⟨rfl, rfl⟩
  · next destination kind call _ =>
    refine (Method.semantic_arguments _ call).bind fun ts hts => ?_
    refine (semantic_splitVirtual kind ts).bind fun ⟨rest, virtual⟩ hvirtual => ?_
    refine (Method.semantic_expectAtLeast _ rest _).bind fun _ hleast => ?_
    refine (Method.semantic_convert _ rest _).bind fun args hargs => ?_
    have hpos := Method.expectAtLeast_eq_ok_iff.1 hleast
    have hbalanced : ∀ s ∈ rest, s.IsBalanced := fun s hs =>
      Method.isBalanced_of_mem_arguments hts (subset_of_splitVirtual hvirtual hs)
    have hlen : rest.length = (ArgumentType.number ::
        List.replicate (rest.length - 1) [ArgumentType.dataName]).length := by
      rw [List.length_cons, List.length_replicate]
      omega
    have hfits := Method.fits_of_convert hbalanced hlen hargs
    refine semantic_nth_bind shows_literal hfits rfl (by decide) fun delay _ => ?_
    refine (semantic_checkDelay kind delay).bind fun _ _ => ?_
    refine (Argument.semantic_mapM_text hfits fun index hindex => ?_).bind fun sources _ => ?_
    · obtain ⟨hone, hlast⟩ := List.mem_range'_1.1 hindex
      rw [← hfits.length_eq, ← hlen] at hlast
      obtain ⟨index, rfl⟩ := Nat.exists_eq_add_of_le' hone
      rw [List.getElem?_cons_succ]
      exact List.getElem?_replicate_of_lt (by omega)
    · exact (semantic_checkChannels s _).bind fun _ _ => .ok _

end Merge

end Overlay
