import Overlay.Proofs.Spacing.Call
import Overlay.Proofs.StateBlock

/-!
Attributes and declarations in respaced texts. A declaration that is read from
a respaced unit differs only in the unit that it keeps.
-/

namespace Overlay

open Text

theorem splitAttribute_of_respaced {t t' key value : Text}
    (hkey : splitAttribute t = .ok (key, value)) (h : Respaced t t') :
    ∃ value', splitAttribute t' = .ok (key, value') ∧ Respaced value value' := by
  simp only [splitAttribute, Except.bind_eq_ok_iff] at hkey ⊢
  obtain ⟨parts, hparts, hkey⟩ := hkey
  split at hkey
  · split at hkey
    · next hwritten =>
      cases hkey
      obtain ⟨_, _, hparts', hname, hvalue⟩ := h.split_two (by decide) hparts
      obtain rfl := hname.eq_of_isSolid (isSolid_of_isName hwritten.1)
      rw [hvalue.isEmpty_eq] at hwritten
      exact ⟨_, ⟨_, hparts', if_pos hwritten⟩, hvalue⟩
    · cases hkey
  · cases hkey

namespace Metadata

theorem add_of_respaced {m n : Metadata} {t t' : Text} (hn : m.add t = .ok n)
    (h : Respaced t t') : m.add t' = .ok n := by
  simp only [add, Except.bind_eq_ok_iff] at hn ⊢
  obtain ⟨⟨key, value⟩, hkey, l, hl, hn⟩ := hn
  obtain ⟨value', hkey', hvalue⟩ := splitAttribute_of_respaced hkey h
  obtain rfl := Literal.eq_of_respaced hl hvalue
  exact ⟨_, hkey', l, hl, hn⟩

theorem ofText_of_respaced {t t' : Text} {m : Metadata} (hm : ofText t = .ok m)
    (h : Respaced t t') : ofText t' = .ok m := by
  simp only [ofText, Except.bind_eq_ok_iff] at hm ⊢
  obtain ⟨ts, hts, x, hcount, hm⟩ := hm
  obtain ⟨ts', hts', hall⟩ := Method.arguments_of_respaced hts h
  rw [← Method.expectAtLeast_congr _ hall.length_eq] at hcount
  exact ⟨ts', hts', x, hcount, foldlM_of_respaced hm hall add_of_respaced⟩

end Metadata

namespace Criterion

theorem inSquare_eq_some_iff {t inner : Text} :
    (dropPrefix? ['['] t).bind (dropSuffix? [']']) = some inner ↔ t = '[' :: inner ++ [']'] := by
  simp only [Option.bind_eq_some_iff, dropPrefix?_eq_some_iff, dropSuffix?_eq_some_iff]
  constructor
  · rintro ⟨rest, rfl, rfl⟩
    rfl
  · rintro rfl
    exact ⟨inner ++ [']'], rfl, rfl⟩

theorem eq_of_literals {ts ts' : List Text} {ls : List Literal}
    (hls : ts.mapM Literal.ofText = .ok ls) (h : List.Forall₂ Respaced ts ts') : ts' = ts := by
  rw [Except.mapM_eq_ok_iff] at hls
  induction h generalizing ls with
  | nil => rfl
  | cons hfirst _ ih =>
      cases hls with
      | cons hl hls => rw [ih hls, Literal.eq_of_respaced hl hfirst]

theorem literalsOf_of_respaced {t t' : Text} {ls : List Literal} (hls : literalsOf t = .ok ls)
    (h : Respaced t t') : literalsOf t' = .ok ls := by
  unfold literalsOf at hls
  split at hls
  · next hnone =>
    have hl := hls
    obtain ⟨l, hread, -⟩ := Except.bind_eq_ok_iff.1 hl
    obtain rfl := Literal.eq_of_respaced hread h
    rw [literalsOf, hnone]
    exact hls
  · next inner hinner =>
    split at hls
    · cases hls
    · next hblank =>
      obtain ⟨parts, hparts, hliterals⟩ := Except.bind_eq_ok_iff.1 hls
      -- The square brackets may belong together only because what stands
      -- between them is balanced.
      obtain ⟨bs, hbs, -⟩ := (split_eq_ok_iff (List.cons_ne_nil _ _)).1 hparts
      obtain rfl := inSquare_eq_some_iff.1 hinner
      obtain ⟨inner', rfl, hrespaced⟩ := h.brackets (show closer? '[' = some ']' from rfl) hbs
      obtain ⟨parts', hparts', hall⟩ := hrespaced.split (by decide) hparts
      rw [literalsOf, inSquare_eq_some_iff.2 rfl]
      simp only [← hrespaced.allBlank_eq, if_neg hblank, hparts', Except.ok_bind,
        eq_of_literals hliterals hall]
      exact hliterals

theorem countOf_of_respaced {t t' : Text} {n : Int64} (hn : countOf t = .ok n)
    (h : Respaced t t') : countOf t' = .ok n := by
  obtain ⟨l, hl, -⟩ := Except.bind_eq_ok_iff.1 hn
  rwa [Literal.eq_of_respaced hl h]

end Criterion

namespace Query

theorem add_of_respaced {q r : Query} {t t' : Text} (hr : q.add t = .ok r)
    (h : Respaced t t') : q.add t' = .ok r := by
  rw [add, Except.bind_eq_ok_iff] at hr ⊢
  obtain ⟨⟨key, value⟩, hkey, hr⟩ := hr
  obtain ⟨value', hkey', hvalue⟩ := splitAttribute_of_respaced hkey h
  refine ⟨(key, value'), hkey', ?_⟩
  simp only at hr ⊢
  split at hr
  · next hmulti =>
    obtain ⟨c, hc, hr⟩ := Except.bind_eq_ok_iff.1 hr
    obtain ⟨n, hn, rfl⟩ := Except.map_eq_ok_iff.1 hc
    rw [if_pos hmulti, Criterion.countOf_of_respaced hn hvalue]
    exact hr
  · next hmulti =>
    obtain ⟨c, hc, hr⟩ := Except.bind_eq_ok_iff.1 hr
    obtain ⟨ls, hls, rfl⟩ := Except.map_eq_ok_iff.1 hc
    rw [if_neg hmulti, Criterion.literalsOf_of_respaced hls hvalue]
    exact hr

theorem ofText_of_respaced {t t' : Text} {q : Query} (hq : ofText t = .ok q)
    (h : Respaced t t') : ofText t' = .ok q := by
  simp only [ofText, Except.bind_eq_ok_iff] at hq ⊢
  obtain ⟨ts, hts, r, hr, hq⟩ := hq
  obtain ⟨ts', hts', hall⟩ := Method.arguments_of_respaced hts h
  exact ⟨ts', hts', r, foldlM_of_respaced hr hall add_of_respaced, hq⟩

end Query

theorem splitDeclaration_of_respaced {t t' name value : Text}
    (hname : splitDeclaration t = .ok (name, value)) (h : Respaced t t') :
    ∃ name' value', splitDeclaration t' = .ok (name', value') ∧ Respaced name name' ∧
      Respaced value value' := by
  simp only [splitDeclaration, Except.bind_eq_ok_iff] at hname ⊢
  obtain ⟨parts, hparts, hname⟩ := hname
  split at hname
  · split at hname
    · cases hname
    · next hfull =>
      cases hname
      obtain ⟨_, _, hparts', hfirst, hsecond⟩ := h.split_two (by decide) hparts
      rw [hfirst.isEmpty_eq, hsecond.isEmpty_eq] at hfull
      exact ⟨_, _, ⟨_, hparts', if_neg hfull⟩, hfirst, hsecond⟩
  · cases hname

theorem eq_of_serviceName {t t' name : Text} (hname : serviceName t = .ok name)
    (h : Respaced t t') : t' = t := by
  unfold serviceName at hname
  split at hname
  · cases hname
  · next rest hrest =>
    obtain ⟨_, hcheck, -⟩ := Except.bind_eq_ok_iff.1 hname
    obtain rfl := dropPrefix?_eq_some_iff.1 hrest
    have hsolid := isSolid_of_isName (isProperName_of_checkName hcheck).1
    refine h.eq_of_isSolid fun c hc => ?_
    rcases List.mem_append.1 hc with hc | hc
    · rw [List.mem_singleton.1 hc]
      decide
    · exact hsolid c hc

theorem Service.ofUnit_of_respaced {u u' : SourceUnit} {s : Service} (hs : ofUnit u = .ok s)
    (h : Respaced u.text u'.text) : ofUnit u' = .ok { s with unit := u' } := by
  obtain ⟨reference, call, hsplit, hname, hquery, -⟩ := ofUnit_eq_ok_iff.1 hs
  obtain ⟨reference', call', hsplit', hreference, hcall⟩ := splitDeclaration_of_respaced hsplit h
  obtain rfl := eq_of_serviceName hname hreference
  exact ofUnit_eq_ok_iff.2
    ⟨_, _, hsplit', hname, Query.ofText_of_respaced hquery hcall, rfl⟩

theorem EndpointKind.isSolid_name (kind : EndpointKind) : IsSolid kind.construct.name.toList := by
  cases kind <;> decide

theorem Endpoint.ofUnit_of_respaced {kind : EndpointKind} {u u' : SourceUnit} {e : Endpoint}
    (he : ofUnit kind u = .ok e) (h : Respaced u.text u'.text) :
    ofUnit kind u' = .ok { e with unit := u' } := by
  obtain ⟨rest, owner, hrest, hsplit, hcheck, hservice, hkind, -⟩ := ofUnit_eq_ok_iff.1 he
  obtain ⟨rest', hrest', hrespaced⟩ := h.dropPrefix? kind.isSolid_name hrest
  obtain ⟨name', owner', hsplit', hname, howner⟩ :=
    splitDeclaration_of_respaced hsplit hrespaced.trim
  obtain rfl := eq_of_checkName hcheck hname
  obtain rfl := eq_of_serviceName hservice howner
  exact ofUnit_eq_ok_iff.2 ⟨rest', _, hrest', hsplit', hcheck, hservice, hkind, rfl⟩

end Overlay
