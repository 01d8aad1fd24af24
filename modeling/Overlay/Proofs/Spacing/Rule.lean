import Overlay.Proofs.Relocation
import Overlay.Proofs.Rule.Reading
import Overlay.Proofs.Spacing.Declaration
import Overlay.Proofs.Spacing.Processing

/-!
Rules in respaced texts. A rule that is read from a respaced unit, with the
names of a state block that declares the same, differs only in the unit that it
keeps.
-/

namespace Overlay

open Text

theorem selection_of_respaced {t t' : Text} {names : List Text}
    (hnames : selection t = .ok names) (h : Respaced t t') : selection t' = .ok names := by
  simp only [selection, Except.bind_eq_ok_iff] at hnames ⊢
  obtain ⟨ts, hts, x, hcount, args, hargs, hnames⟩ := hnames
  obtain ⟨ts', hts', hall⟩ := Method.arguments_of_respaced hts h
  have hformat : ∀ types ∈ List.replicate ts.length [ArgumentType.dataName],
      ArgumentType.untyped ∉ types := by
    intro types htypes
    rw [List.eq_of_mem_replicate htypes]
    decide
  have hargs' := Method.convert_eq_of_respaced hformat hargs hall
  rw [hall.length_eq] at hargs'
  rw [← Method.expectAtLeast_congr _ hall.length_eq] at hcount
  exact ⟨ts', hts', x, hcount, args, hargs', hnames⟩

theorem Qos.ofText_of_respaced {t t' : Text} {q : Qos} (hq : ofText t = .ok q)
    (h : Respaced t t') : ofText t' = .ok q :=
  Method.call_bind_of_respaced (by decide) hq h

theorem identifier_of_respaced {t t' id : Text} (hid : identifier t = .ok id)
    (h : Respaced t t') : identifier t' = .ok id :=
  Method.call_bind_of_respaced (by decide) hid h

namespace Chain

theorem add_of_respaced {kind : EndpointKind} {c d : Chain} {t t' : Text}
    (hd : add kind c t = .ok d) (h : Respaced t t') : add kind c t' = .ok d := by
  have hcall {m : Method} (hm : Method.ofCall? t = some m) : Method.ofCall? t' = some m :=
    Method.ofCall?_of_respaced hm h
  refine add_eq_ok_iff.2 ?_
  cases add_eq_ok_iff.1 hd with
  | select hm hnone hnames => exact .select (hcall hm) hnone (selection_of_respaced hnames h)
  | metadata hm hnone hdata =>
      exact .metadata (hcall hm) hnone (Metadata.ofText_of_respaced hdata h)
  | qos hkind hm hnone hq => exact .qos hkind (hcall hm) hnone (Qos.ofText_of_respaced hq h)
  | id hkind hm hnone hid => exact .id hkind (hcall hm) hnone (identifier_of_respaced hid h)
  | processing hkind hm hprocessing hp =>
      exact .processing hkind (hcall hm) hprocessing (Processing.ofText_of_respaced hp h)

theorem ofText_of_respaced {kind : EndpointKind} {t t' : Text} {c : Chain}
    (hc : ofText kind t = .ok c) (h : Respaced t t') : ofText kind t' = .ok c := by
  simp only [ofText, Except.bind_eq_ok_iff] at hc ⊢
  obtain ⟨ts, hts, x, hcheck, hc⟩ := hc
  obtain ⟨ts', hts', hall⟩ := h.split (by decide) hts
  cases hall with
  | nil => exact ⟨[], hts', x, hcheck, hc⟩
  | cons hfirst hall =>
      obtain rfl := eq_of_checkName hcheck hfirst
      exact ⟨_, hts', x, hcheck, foldlM_of_respaced hc hall add_of_respaced⟩

end Chain

theorem Transmission.ofUnit_of_respaced {s s' : StateBlock} (hs : s.Moved s') {u u' : SourceUnit}
    {t : Transmission} (ht : ofUnit s u = .ok t) (h : Respaced u.text u'.text) :
    ofUnit s' u' = .ok { t with unit := u' } := by
  obtain ⟨left, right, channel, scratch, destination, source, hparts, hchannel, hscratch,
    hdestination, hsource, rfl⟩ := ofUnit_eq_ok_iff.1 ht
  obtain ⟨left', right', hparts', hleft, hright⟩ := h.split_two (by decide) hparts
  exact ofUnit_eq_ok_iff.2 ⟨left', right', channel, scratch, destination, source, hparts',
    Chain.ofText_of_respaced hchannel hleft, Chain.ofText_of_respaced hscratch hright,
    (hs.serviceOfChannel _).trans hdestination, (hs.serviceOfScratch _).trans hsource, rfl⟩

namespace Trigger

theorem head?_of_respaced {t t' event rest : Text} {switch : Switch}
    (hhead : head? t = some (event, switch, rest)) (h : Respaced t t') :
    ∃ rest', head? t' = some (event, switch, rest') ∧ Respaced rest rest' := by
  simp only [head?, Option.bind_eq_bind, Option.bind_eq_some_iff, Prod.exists] at hhead ⊢
  obtain ⟨name, after, hname, hhead⟩ := hhead
  obtain ⟨after', hname', hafter⟩ := h.nameThen? (by decide) hname
  split at hhead
  · next more =>
    obtain ⟨rest, hrest, heq⟩ := Option.map_eq_some_iff.1 hhead
    cases heq
    obtain ⟨more', rfl, hmore⟩ := @Respaced.solid_append ['+'] _ _ (by decide) hafter
    obtain ⟨rest', hrest', hrespaced⟩ := hmore.restOfLine? hrest
    exact ⟨rest', ⟨_, _, hname', by simp [hrest']⟩, hrespaced⟩
  · next more =>
    obtain ⟨rest, hrest, heq⟩ := Option.map_eq_some_iff.1 hhead
    cases heq
    obtain ⟨more', rfl, hmore⟩ := @Respaced.solid_append ['-'] _ _ (by decide) hafter
    obtain ⟨rest', hrest', hrespaced⟩ := hmore.restOfLine? hrest
    exact ⟨rest', ⟨_, _, hname', by simp [hrest']⟩, hrespaced⟩
  · cases hhead

theorem readCount_of_respaced {t t' : Text} {l : Leaf} (hl : readCount t = .ok l)
    (h : Respaced t t') : readCount t' = .ok l := by
  unfold readCount at hl
  split at hl
  · next l' hl' =>
    rw [readCount, Leaf.ofComparison_of_respaced hl' h]
    simp only
    split at hl
    · next hcount => rwa [if_pos hcount]
    · cases hl
  · cases hl

theorem ofUnit_of_respaced {s s' : StateBlock} (hs : s.Moved s') {u u' : SourceUnit} {t : Trigger}
    (ht : ofUnit s u = .ok t) (h : Respaced u.text u'.text) :
    ofUnit s' u' = .ok { t with unit := u' } := by
  obtain ⟨rest, call, args, count, text, hhead, hevent, hparts, hcheck, hargs, hinterval, hpositive,
    hcount, hcondition, htext, hread, hdeclared, -⟩ := ofUnit_eq_ok_iff.1 ht
  obtain ⟨rest', hhead', hrest⟩ := head?_of_respaced hhead h
  obtain ⟨channel', call', hparts', hchannel, hcall⟩ := hrest.split_two (by decide) hparts
  obtain rfl := eq_of_checkName hcheck hchannel
  obtain ⟨args', hargs', hviews⟩ := Method.call_of_respaced hargs hcall
  obtain ⟨count', hcount', hcountRespaced⟩ := Argument.untyped_of_respaced hviews hcount
  obtain ⟨text', htext', hrespaced⟩ := Argument.untyped_of_respaced hviews htext
  have hinterval' := Argument.nth_of_respaced Argument.isTyped_literal? hviews hinterval
  rw [← isNone_eq_of_rel (hs.rel_channel? _)] at hdeclared
  exact ofUnit_eq_ok_iff.2 ⟨rest', call', args', count', text', hhead', hevent, hparts', hcheck,
    hargs', hinterval', hpositive, hcount', readCount_of_respaced hcondition hcountRespaced, htext',
    Condition.ofText_of_respaced hread hrespaced, hdeclared, rfl⟩

end Trigger

namespace Merge

theorem head?_of_respaced {t t' destination call : Text} {kind : MergeKind}
    (hhead : head? t = some (destination, kind, call)) (h : Respaced t t') :
    ∃ call', head? t' = some (destination, kind, call') ∧ Respaced call call' := by
  simp only [head?, Option.bind_eq_bind, Option.bind_eq_some_iff, Prod.exists, Option.some.injEq,
    Prod.mk.injEq] at hhead ⊢
  obtain ⟨_, rest, hname, _, hcall, _, ⟨m, hm, hkind⟩, rfl, rfl, rfl⟩ := hhead
  obtain ⟨rest', hname', hrest⟩ := h.nameThen? (by decide) hname
  obtain ⟨call', hcall', hrespaced⟩ := hrest.restOfLine? hcall
  exact ⟨call', ⟨_, rest', hname', call', hcall', _,
    ⟨m, Method.ofCall?_of_respaced hm hrespaced, hkind⟩, rfl, rfl, rfl⟩, hrespaced⟩

theorem splitVirtual_of_respaced {kind : MergeKind} {ts ts' us : List Text}
    {v : Option VirtualProperty} (hv : splitVirtual kind ts = .ok (us, v))
    (h : List.Forall₂ Respaced ts ts') :
    ∃ us', splitVirtual kind ts' = .ok (us', v) ∧ List.Forall₂ Respaced us us' := by
  rcases List.eq_nil_or_concat ts with rfl | ⟨front, last, rfl⟩
  · cases h
    cases kind with
    | merge =>
        cases hv
        exact ⟨[], rfl, .nil⟩
    | join =>
        cases hv
        exact ⟨[], rfl, .nil⟩
  · rw [List.concat_eq_append] at hv h
    obtain ⟨front', last', hfront, hlast, rfl⟩ := forall₂_concat_left_iff.1 h
    cases kind with
    | merge =>
        cases hv
        exact ⟨_, rfl, h⟩
    | join =>
        simp only [splitVirtual, List.getLast?_concat, List.dropLast_concat] at hv ⊢
        rw [← Method.isCalledBy_eq_of_respaced .virtual hlast]
        split at hv
        · next hcalled =>
          obtain ⟨p, hp, hv⟩ := Except.bind_eq_ok_iff.1 hv
          cases hv
          rw [if_pos hcalled, VirtualProperty.ofText_of_respaced hp hlast]
          exact ⟨front', rfl, hfront⟩
        · next hcalled =>
          cases hv
          rw [if_neg hcalled]
          exact ⟨_, rfl, h⟩

theorem checkChannels_of_moved {s s' : StateBlock} (hs : s.Moved s') (names : List Text) :
    checkChannels s' names = checkChannels s names := by
  have hfind : (fun name => (s'.channel? name).isNone) = fun name => (s.channel? name).isNone := by
    funext name
    exact isNone_eq_of_rel (hs.rel_channel? name)
  rw [checkChannels, checkChannels, hfind]

theorem ofUnit_of_respaced {s s' : StateBlock} (hs : s.Moved s') {u u' : SourceUnit} {m : Merge}
    (hm : ofUnit s u = .ok m) (h : Respaced u.text u'.text) :
    ofUnit s' u' = .ok { m with unit := u' } := by
  obtain ⟨call, ts, us, args, hhead, hts, hvirtual, hcount, hargs, hdelay, hcheck, hsources,
    hchannels, -⟩ := ofUnit_eq_ok_iff.1 hm
  obtain ⟨call', hhead', hcall⟩ := head?_of_respaced hhead h
  obtain ⟨ts', hts', hall⟩ := Method.arguments_of_respaced hts hcall
  obtain ⟨us', hvirtual', hrest⟩ := splitVirtual_of_respaced hvirtual hall
  have hformat : ∀ types ∈ ArgumentType.number :: List.replicate (us.length - 1) [.dataName],
      ArgumentType.untyped ∉ types := by
    intro types htypes
    rcases List.mem_cons.1 htypes with rfl | htypes
    · decide
    · rw [List.eq_of_mem_replicate htypes]
      decide
  have hargs' := Method.convert_eq_of_respaced hformat hargs hrest
  rw [hrest.length_eq] at hargs'
  rw [← Method.expectAtLeast_congr _ hrest.length_eq] at hcount
  rw [← checkChannels_of_moved hs] at hchannels
  exact ofUnit_eq_ok_iff.2 ⟨call', ts', us', args, hhead', hts', hvirtual', hcount, hargs', hdelay,
    hcheck, hsources, hchannels, rfl⟩

end Merge

end Overlay
