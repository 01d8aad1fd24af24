import Overlay.Proofs.Call
import Overlay.Proofs.Rule.Chain

/-!
Exchanging the calls of a transmission. Every call in an accepted chain is a
name and one group of brackets, so no dot and no arrow stands in it outside of
brackets, and a text that is written with the same calls in another order is
cut at the same places. Together with the order of calls in a chain this gives
the same transmission.
-/

namespace Overlay

open Text

namespace Method

/-- The text of a call has a character that is no word character inside of its
brackets only. -/
theorem hides_of_group? {m : Method} {t inner : Text} (h : m.group? t = some inner) {d : Char}
    (hd : isWord d = false) : Hides d t := by
  obtain ⟨rfl, bs, hbs⟩ := eq_of_group? h
  have hgroup := Balanced.group (show closer? '(' = some ')' from rfl) hbs .nil
  exact (Hides.of_literal hgroup).name_append m.isName_label hd

end Method

theorem exists_group_of_selection {t : Text} {names : List Text} (h : selection t = .ok names) :
    ∃ inner, Method.select.group? t = some inner := by
  obtain ⟨_, hts, -⟩ := Except.bind_eq_ok_iff.1 h
  exact Method.exists_group_of_arguments hts

theorem Processing.exists_group_of_ofText {m : Method} {t : Text} {p : Processing}
    (h : ofText m t = .ok p) : ∃ inner, m.group? t = some inner := by
  cases m with
  | filter | cullTime | cullSpace | string =>
      obtain ⟨_, hargs, -⟩ := Except.bind_eq_ok_iff.1 h
      exact Method.exists_group_of_call hargs
  | aggregate =>
      obtain ⟨_, ha, -⟩ := Except.map_eq_ok_iff.1 h
      obtain ⟨_, hts, -⟩ := Except.bind_eq_ok_iff.1 ha
      exact Method.exists_group_of_arguments hts
  | virtual =>
      obtain ⟨_, hv, -⟩ := Except.map_eq_ok_iff.1 h
      obtain ⟨_, hargs, -⟩ := Except.bind_eq_ok_iff.1 hv
      exact Method.exists_group_of_call hargs
  | _ => cases h

namespace Chain

theorem Holds.exists_of_mem {α : Type} {m : Method} {read : Text → Except Fault α}
    {calls : List Text} {place : Option α} (h : Holds m read calls place) {call : Text}
    (hmem : call ∈ calls) (hcall : Method.ofCall? call = some m) : ∃ a, read call = .ok a := by
  have hfilter : call ∈ calls.filter m.isCalledBy :=
    List.mem_filter.2 ⟨hmem, by simp [Method.isCalledBy, hcall]⟩
  obtain ⟨a, -, ha⟩ := forall₂_exists_of_mem_left h hfilter
  exact ⟨a, ha⟩

/-- Every call of an accepted chain is a name and a group of brackets. -/
theorem IsMadeOf.exists_group {kind : EndpointKind} {name : Text} {calls : List Text} {c : Chain}
    (h : IsMadeOf kind name calls c) {call : Text} (hmem : call ∈ calls) :
    ∃ m inner, Method.group? m call = some inner := by
  obtain ⟨m, hm, hadmits⟩ := h.admitted call hmem
  refine ⟨m, ?_⟩
  rcases EndpointKind.admits_iff.1 hadmits with rfl | rfl | ⟨-, rfl | rfl | hprocesses⟩
  · obtain ⟨_, hnames⟩ := h.select.exists_of_mem hmem hm
    exact exists_group_of_selection hnames
  · obtain ⟨_, hdata⟩ := h.metadata.exists_of_mem hmem hm
    obtain ⟨_, hts, -⟩ := Except.bind_eq_ok_iff.1 hdata
    exact Method.exists_group_of_arguments hts
  · obtain ⟨_, hq⟩ := h.qos.exists_of_mem hmem hm
    obtain ⟨_, hargs, -⟩ := Except.bind_eq_ok_iff.1 hq
    exact Method.exists_group_of_call hargs
  · obtain ⟨_, hid⟩ := h.id.exists_of_mem hmem hm
    obtain ⟨_, hargs, -⟩ := Except.bind_eq_ok_iff.1 hid
    exact Method.exists_group_of_call hargs
  · have hfilter : call ∈ calls.filter isProcessingCall :=
      List.mem_filter.2 ⟨hmem, by simp [isProcessingCall, hm, hprocesses]⟩
    obtain ⟨p, -, m', hm', hp⟩ := forall₂_exists_of_mem_left h.processing hfilter
    obtain rfl := Option.some.inj (hm.symm.trans hm')
    exact Processing.exists_group_of_ofText hp

/-- The name and the calls of an accepted chain have no dot and no arrow outside
of brackets. -/
theorem IsMadeOf.hides {kind : EndpointKind} {name : Text} {calls : List Text} {c : Chain}
    (h : IsMadeOf kind name calls c) (hname : checkName name = .ok ()) {d : Char}
    (hd : isWord d = false) : ∀ part ∈ name :: calls, Hides d part := by
  intro part hpart
  rcases List.mem_cons.1 hpart with rfl | hpart
  · exact .of_isName (isProperName_of_checkName hname).1 hd
  · obtain ⟨m, inner, hgroup⟩ := h.exists_group hpart
    exact Method.hides_of_group? hgroup hd

end Chain

namespace Transmission

/-- Whether a text is cut into the parts of two chains, at its arrow and at its
dots. -/
def IsCut (t : Text) (lefts rights : List Text) : Prop :=
  ∃ left right, t.split arrow (some 2) = .ok [left, right] ∧ left.split ['.'] none = .ok lefts ∧
    right.split ['.'] none = .ok rights

/-- Whether a text is written with the parts of two chains, an arrow between the
chains and dots between the parts, and any blanks around all of them. -/
def IsWritten (t : Text) (lefts rights : List Text) : Prop :=
  ∃ ls rs, List.Forall₂ IsPadded lefts ls ∧ List.Forall₂ IsPadded rights rs ∧
    t = ['.'].intercalate ls ++ arrow ++ ['.'].intercalate rs

theorem IsCut.unique {t : Text} {lefts rights lefts' rights' : List Text}
    (h : IsCut t lefts rights) (h' : IsCut t lefts' rights') :
    lefts' = lefts ∧ rights' = rights := by
  obtain ⟨left, right, ht, hleft, hright⟩ := h
  obtain ⟨left', right', ht', hleft', hright'⟩ := h'
  rw [ht] at ht'
  cases ht'
  rw [hleft] at hleft'
  rw [hright] at hright'
  cases hleft'
  cases hright'
  exact ⟨rfl, rfl⟩

theorem split_side {parts raws : List Text} (hraws : List.Forall₂ IsPadded parts raws)
    (hne : parts ≠ []) (htrim : ∀ part ∈ parts, part.trim = part)
    (hhides : ∀ part ∈ parts, Hides '.' part) :
    split (trim (['.'].intercalate raws)) ['.'] none = .ok parts := by
  have hparts := split_intercalate_padded (by decide) (by decide) hraws hne hhides
  rw [List.map_congr_left htrim, List.map_id'] at hparts
  exact split_trim (by decide) (by decide) hparts

/-- Parts without an arrow and a dot outside of brackets are found again. -/
theorem IsWritten.isCut {t : Text} {lefts rights : List Text} (h : IsWritten t lefts rights)
    (hleft : lefts ≠ []) (hright : rights ≠ [])
    (htrim : ∀ part ∈ lefts ++ rights, part.trim = part)
    (hhides : ∀ d ∈ ['.', '<'], ∀ part ∈ lefts ++ rights, Hides d part) :
    IsCut t lefts rights := by
  obtain ⟨ls, rs, hls, hrs, rfl⟩ := h
  have harrow {parts raws : List Text} (hraws : List.Forall₂ IsPadded parts raws)
      (hsub : parts ⊆ lefts ++ rights) : Hides '<' (['.'].intercalate raws) :=
    .intercalate (by decide) (by decide) (by decide) <|
      .forall_padded (by decide) hraws fun part hpart =>
        hhides '<' (by decide) part (hsub hpart)
  have hsubleft := List.subset_append_left lefts rights
  have hsubright := List.subset_append_right lefts rights
  obtain ⟨bs, hbs, -⟩ := harrow hrs hsubright
  exact ⟨_, _, split_two (by decide) (harrow hls hsubleft) hbs,
    split_side hls hleft (fun part hpart => htrim part (hsubleft hpart))
      (fun part hpart => hhides '.' (by decide) part (hsubleft hpart)),
    split_side hrs hright (fun part hpart => htrim part (hsubright hpart))
      (fun part hpart => hhides '.' (by decide) part (hsubright hpart))⟩

/-- What is known of the calls on the two sides of a transmission that was read
from a text. -/
structure HasCalls (t : Transmission) (text : Text) (lefts rights : List Text) : Prop where
  cut : IsCut text (t.channel.name :: lefts) (t.scratch.name :: rights)
  once : ∀ m ∈ [Method.select, .metadata, .qos, .id], (lefts.filter m.isCalledBy).length ≤ 1 ∧
    (rights.filter m.isCalledBy).length ≤ 1
  left : ∀ call ∈ lefts, Method.ofCall? call = some .select ∨ Method.ofCall? call = some .metadata
  processing : List.Forall₂ Chain.Processes (rights.filter Chain.isProcessingCall) t.processing

/-- A transmission that is accepted is accepted with its calls in any other order
that keeps the processing in order, and nothing but its unit changes. -/
theorem exchange_calls {s : StateBlock} {u : SourceUnit} {t : Transmission}
    (h : ofUnit s u = .ok t) :
    ∃ lefts rights, t.HasCalls u.text lefts rights ∧
      ∀ lefts' rights' u', lefts'.Perm lefts → rights'.Perm rights →
        rights'.filter Chain.isProcessingCall = rights.filter Chain.isProcessingCall →
        IsWritten u'.text (t.channel.name :: lefts') (t.scratch.name :: rights') →
        ofUnit s u' = .ok { t with unit := u' } := by
  obtain ⟨left, right, channel, scratch, destination, source, hparts, hchannel, hscratch,
    hdestination, hsource, rfl⟩ := ofUnit_eq_ok_iff.1 h
  obtain ⟨lefts, hlefts, hchannelName, hleft⟩ := Chain.ofText_eq_ok_iff.1 hchannel
  obtain ⟨rights, hrights, hscratchName, hright⟩ := Chain.ofText_eq_ok_iff.1 hscratch
  refine ⟨lefts, rights, ⟨⟨left, right, hparts, hlefts, hrights⟩, ?_, ?_, hright.processing⟩, ?_⟩
  · intro m hm
    simp only [List.mem_cons, List.not_mem_nil, or_false] at hm
    rcases hm with rfl | rfl | rfl | rfl
    · exact ⟨hleft.select.length_le, hright.select.length_le⟩
    · exact ⟨hleft.metadata.length_le, hright.metadata.length_le⟩
    · exact ⟨hleft.qos.length_le, hright.qos.length_le⟩
    · exact ⟨hleft.id.length_le, hright.id.length_le⟩
  · intro call hcall
    obtain ⟨m, hm, rfl | rfl⟩ := hleft.admitted call hcall
    · exact .inl hm
    · exact .inr hm
  · intro lefts' rights' u' hpermLeft hpermRight horder hwritten
    -- On the left there is no processing whose order could change.
    have hnone : lefts.filter Chain.isProcessingCall = [] := by
      refine List.filter_eq_nil_iff.2 fun call hcall => ?_
      obtain ⟨m, hm, rfl | rfl⟩ := hleft.admitted call hcall <;>
        simp [Chain.isProcessingCall, hm, Method.isProcessing]
    have hleft' := hleft.perm hpermLeft (Chain.filter_eq_of_perm hpermLeft (by simp [hnone]))
    have hright' := hright.perm hpermRight horder
    -- The calls are still the same, so they have no dot or arrow at which to cut them.
    have hcut : IsCut u'.text (channel.name :: lefts') (scratch.name :: rights') := by
      refine hwritten.isCut (List.cons_ne_nil _ _) (List.cons_ne_nil _ _) ?_ ?_
      · intro part hpart
        rcases List.mem_append.1 hpart with hpart | hpart
        · exact trim_of_mem_split hlefts ((hpermLeft.cons _).mem_iff.1 hpart)
        · exact trim_of_mem_split hrights ((hpermRight.cons _).mem_iff.1 hpart)
      · intro d hd part hpart
        have hword : isWord d = false := by
          simp only [List.mem_cons, List.not_mem_nil, or_false] at hd
          rcases hd with rfl | rfl <;> decide
        rcases List.mem_append.1 hpart with hpart | hpart
        · exact hleft'.hides hchannelName hword part hpart
        · exact hright'.hides hscratchName hword part hpart
    obtain ⟨left', right', hparts', hlefts', hrights'⟩ := hcut
    exact ofUnit_eq_ok_iff.2 ⟨left', right', channel, scratch, destination, source, hparts',
      Chain.ofText_eq_ok_iff.2 ⟨lefts', hlefts', hchannelName, hleft'⟩,
      Chain.ofText_eq_ok_iff.2 ⟨rights', hrights', hscratchName, hright'⟩, hdestination, hsource,
      rfl⟩

/-- A state block with a channel and a scratch. -/
def twoEnds : StateBlock where
  services := []
  scratches := [⟨.scratch, "s".toList, "here".toList, .bare 0⟩]
  channels := [⟨.channel, "c".toList, "there".toList, .bare 0⟩]
  unit := .bare 0

def crowdedLeft : Text := "c.select(x).meta(k=\"<~.\")".toList

def crowdedRight : Text :=
  "s.filter(a.on && b > 1).id(\"x.y\").virtual(v, \"a <~ b\").qos(2.5, 1)".toList

/-- Dots and arrows inside of brackets and literals do not cut. -/
def crowded : SourceUnit :=
  { SourceUnit.bare 0 with text := crowdedLeft ++ " <~ ".toList ++ crowdedRight }

def exchangedLeft : List Text := ["c ".toList, "meta(k=\"<~.\")".toList, "select(x) ".toList]

def exchangedRight : List Text :=
  ["s".toList, "qos(2.5, 1) ".toList, " filter(a.on && b > 1)".toList,
    "virtual(v, \"a <~ b\")".toList, "id(\"x.y\")".toList]

def exchanged : SourceUnit :=
  { SourceUnit.bare 0 with
    text := ['.'].intercalate exchangedLeft ++ arrow ++ ['.'].intercalate exchangedRight }

theorem exchange_calls_crowded : ∃ t, ofUnit twoEnds crowded = .ok t ∧
    ofUnit twoEnds exchanged = .ok { t with unit := exchanged } := by
  have hok : (ofUnit twoEnds crowded).toOption.isSome = true := by decide +kernel
  obtain ⟨t, hread⟩ := Except.exists_ok_of_isSome hok
  obtain ⟨lefts, rights, hcalls, hexchange⟩ := exchange_calls hread
  have hcut : IsCut crowded.text
      ("c".toList :: ["select(x)".toList, "meta(k=\"<~.\")".toList])
      ("s".toList :: ["filter(a.on && b > 1)".toList, "id(\"x.y\")".toList,
        "virtual(v, \"a <~ b\")".toList, "qos(2.5, 1)".toList]) :=
    ⟨crowdedLeft, crowdedRight, by decide +kernel, by decide +kernel, by decide +kernel⟩
  obtain ⟨hlefts, hrights⟩ := hcut.unique hcalls.cut
  obtain ⟨hchannel, rfl⟩ := List.cons.inj hlefts
  obtain ⟨hscratch, rfl⟩ := List.cons.inj hrights
  have hwritten : IsWritten exchanged.text (exchangedLeft.map trim) (exchangedRight.map trim) :=
    ⟨_, _, isPadded_map_trim _, isPadded_map_trim _, rfl⟩
  refine ⟨t, hread, hexchange (exchangedLeft.map trim).tail (exchangedRight.map trim).tail
    exchanged (by decide +kernel) (by decide +kernel) (by decide +kernel) ?_⟩
  rw [hchannel, hscratch]
  exact hwritten

end Transmission

end Overlay
