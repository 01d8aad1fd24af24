import Overlay.Processing
import Overlay.Proofs.Spacing.Condition

/-!
Processing in respaced texts. Windows, aggregations and virtual properties are
calls with typed arguments; a filter and the cullings have an untyped argument,
which is read on.
-/

namespace Overlay

open Text

theorem TimeWindow.ofText_of_respaced {t t' : Text} {w : TimeWindow} (hw : ofText t = .ok w)
    (h : Respaced t t') : ofText t' = .ok w :=
  Method.call_bind_of_respaced (by decide) hw h

theorem SpaceWindow.ofText_of_respaced {t t' : Text} {w : SpaceWindow} (hw : ofText t = .ok w)
    (h : Respaced t t') : ofText t' = .ok w :=
  Method.call_bind_of_respaced (by decide) hw h

theorem VirtualProperty.ofText_of_respaced {t t' : Text} {p : VirtualProperty}
    (hp : ofText t = .ok p) (h : Respaced t t') : ofText t' = .ok p :=
  Method.call_bind_of_respaced (by decide) hp h

namespace Aggregate

theorem addWindow_of_respaced {a b : Aggregate} {t t' : Text} (hb : a.addWindow t = .ok b)
    (h : Respaced t t') : a.addWindow t' = .ok b := by
  unfold addWindow at hb ⊢
  rw [← Method.ofCall?_eq_of_respaced h]
  split at hb
  · split at hb
    · cases hb
    · next hfree =>
      obtain ⟨w, hw, hb⟩ := Except.bind_eq_ok_iff.1 hb
      rw [if_neg hfree, TimeWindow.ofText_of_respaced hw h]
      exact hb
  · split at hb
    · cases hb
    · next hfree =>
      obtain ⟨w, hw, hb⟩ := Except.bind_eq_ok_iff.1 hb
      rw [if_neg hfree, SpaceWindow.ofText_of_respaced hw h]
      exact hb
  · cases hb

theorem ofText_of_respaced {t t' : Text} {a : Aggregate} (ha : ofText t = .ok a)
    (h : Respaced t t') : ofText t' = .ok a := by
  simp only [ofText, Except.bind_eq_ok_iff] at ha ⊢
  obtain ⟨ts, hts, x, hcount, args, hargs, name, hname, functionName, hfunction, ha⟩ := ha
  obtain ⟨ts', hts', hall⟩ := Method.arguments_of_respaced hts h
  obtain ⟨args', hargs', hviews⟩ := Method.convert_of_respaced hargs hall
  rw [hall.length_eq] at hargs'
  rw [← Method.expectBetween_congr _ hall.length_eq] at hcount
  refine ⟨ts', hts', x, hcount, args', hargs',
    name, Argument.nth_of_respaced Argument.isTyped_text? hviews hname,
    functionName, Argument.nth_of_respaced Argument.isTyped_text? hviews hfunction, ?_⟩
  split at ha
  · cases ha
  · exact foldlM_of_respaced ha (List.forall₂_drop 2 hall) addWindow_of_respaced

end Aggregate

namespace Processing

theorem ratio_of_respaced {args args' : List Argument}
    (h : List.Forall₂ Argument.Respaced args args') {r : Ratio}
    (hr : Ratio.ofArguments args = .ok r) : Ratio.ofArguments args' = .ok r := by
  simp only [Ratio.ofArguments, Except.bind_eq_ok_iff] at hr ⊢
  obtain ⟨n, hn, d, hd, hr⟩ := hr
  exact ⟨n, Argument.nth_of_respaced Argument.isTyped_integer? h hn, d,
    Argument.nth_of_respaced Argument.isTyped_integer? h hd, hr⟩

theorem ofText_of_respaced {m : Method} {t t' : Text} {p : Processing} (hp : ofText m t = .ok p)
    (h : Respaced t t') : ofText m t' = .ok p := by
  unfold ofText at hp ⊢
  split at hp
  case h_1 =>
    simp only [Except.bind_eq_ok_iff] at hp ⊢
    obtain ⟨args, hargs, text, htext, c, hc, hp⟩ := hp
    obtain ⟨args', hargs', hall⟩ := Method.call_of_respaced hargs h
    obtain ⟨text', htext', hrespaced⟩ := Argument.untyped_of_respaced hall htext
    exact ⟨args', hargs', text', htext', c, Condition.ofText_of_respaced hc hrespaced, hp⟩
  case h_2 =>
    simp only [Except.bind_eq_ok_iff] at hp ⊢
    obtain ⟨args, hargs, ratio, hratio, text, htext, w, hw, hp⟩ := hp
    obtain ⟨args', hargs', hall⟩ := Method.call_of_respaced hargs h
    obtain ⟨text', htext', hrespaced⟩ := Argument.untyped_of_respaced hall htext
    exact ⟨args', hargs', ratio, ratio_of_respaced hall hratio, text', htext', w,
      TimeWindow.ofText_of_respaced hw hrespaced, hp⟩
  case h_3 =>
    simp only [Except.bind_eq_ok_iff] at hp ⊢
    obtain ⟨args, hargs, ratio, hratio, text, htext, w, hw, hp⟩ := hp
    obtain ⟨args', hargs', hall⟩ := Method.call_of_respaced hargs h
    obtain ⟨text', htext', hrespaced⟩ := Argument.untyped_of_respaced hall htext
    exact ⟨args', hargs', ratio, ratio_of_respaced hall hratio, text', htext', w,
      SpaceWindow.ofText_of_respaced hw hrespaced, hp⟩
  case h_4 =>
    obtain ⟨a, ha, rfl⟩ := Except.map_eq_ok_iff.1 hp
    rw [Aggregate.ofText_of_respaced ha h]
    rfl
  case h_5 => exact Method.call_bind_of_respaced (by decide) hp h
  case h_6 =>
    obtain ⟨v, hv, rfl⟩ := Except.map_eq_ok_iff.1 hp
    rw [VirtualProperty.ofText_of_respaced hv h]
    rfl
  case h_7 => cases hp

end Processing

end Overlay
