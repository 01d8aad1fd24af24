import Overlay.Proofs.Call
import Overlay.Proofs.Literal
import Overlay.Proofs.Spacing.Parts

/-!
Calls in respaced texts. The arguments of a call are respaced with the call, and
those that are written as a name or a literal stay as they are; only an untyped
argument may change its blanks.
-/

namespace Overlay

open Text

theorem eq_of_checkName {t t' : Text} {x : Unit} (hcheck : checkName t = .ok x)
    (h : Respaced t t') : t' = t :=
  h.eq_of_isSolid (isSolid_of_isName (checkName_eq_ok_iff.1 hcheck).1)

theorem isSolid_of_numeric {t : Text} (h : ∀ c ∈ t, isNumeric c = true) : IsSolid t :=
  fun c hc => ⟨isPlain_of_isNumeric (h c hc), isBlank_of_isNumeric (h c hc)⟩

theorem Literal.eq_of_respaced {t t' : Text} {l : Literal} (hl : ofText t = .ok l)
    (h : Respaced t t') : t' = t := by
  rcases written_of_ofText hl with ⟨-, hnum⟩ | hliteral
  · exact h.eq_of_isSolid (isSolid_of_numeric hnum)
  · exact h.eq_of_isLiteral hliteral

/-- Steps that do not see blanks do not see them in a list of texts. -/
theorem foldlM_of_respaced {α : Type} {step : α → Text → Except Fault α} {ts ts' : List Text}
    {a b : α} (hb : ts.foldlM step a = .ok b) (h : List.Forall₂ Respaced ts ts')
    (hstep : ∀ {a b t t'}, step a t = .ok b → Respaced t t' → step a t' = .ok b) :
    ts'.foldlM step a = .ok b := by
  induction h generalizing a with
  | nil => exact hb
  | cons hfirst _ ih =>
      rw [List.foldlM_cons, Except.bind_eq_ok_iff] at hb ⊢
      obtain ⟨c, hc, hb⟩ := hb
      exact ⟨c, hstep hc hfirst, ih hb⟩

namespace Argument

/-- Arguments that differ at most in the blanks of an untyped text. -/
inductive Respaced : Argument → Argument → Prop
  | typed {a : Argument} : a.untyped? = none → Respaced a a
  | untyped {t t' : Text} : t.Respaced t' → Respaced (.untyped t) (.untyped t')

/-- Whether a view sees nothing in an untyped text. -/
def IsTyped {α : Type} (view : Argument → Option α) : Prop := ∀ t, view (.untyped t) = none

theorem isTyped_text? : IsTyped text? := fun _ => rfl

theorem isTyped_literal? : IsTyped literal? := fun _ => rfl

theorem isTyped_integer? : IsTyped integer? := fun _ => rfl

theorem eq_of_respaced {args args' : List Argument} (h : List.Forall₂ Respaced args args')
    (htyped : ∀ a ∈ args, a.untyped? = none) : args' = args := by
  induction h with
  | nil => rfl
  | cons hfirst _ ih =>
      rw [ih fun a ha => htyped a (List.mem_cons_of_mem _ ha)]
      cases hfirst with
      | typed => rfl
      | untyped => cases htyped _ List.mem_cons_self

theorem getElem?_of_respaced {args args' : List Argument} (h : List.Forall₂ Respaced args args')
    {index : Nat} {a : Argument} (ha : args[index]? = some a) :
    ∃ a', args'[index]? = some a' ∧ Respaced a a' := by
  induction h generalizing index with
  | nil => cases ha
  | cons hfirst _ ih =>
      cases index with
      | zero =>
          cases ha
          exact ⟨_, rfl, hfirst⟩
      | succ index => exact ih ha

theorem nth_of_respaced {α : Type} {view : Argument → Option α} (hview : IsTyped view)
    {args args' : List Argument} (h : List.Forall₂ Respaced args args') {index : Nat} {x : α}
    (hx : nth view args index = .ok x) : nth view args' index = .ok x := by
  obtain ⟨a, ha, hax⟩ := nth_eq_ok_iff.1 hx
  obtain ⟨a', ha', hrespaced⟩ := getElem?_of_respaced h ha
  refine nth_eq_ok_iff.2 ⟨a', ha', ?_⟩
  cases hrespaced with
  | typed => exact hax
  | untyped =>
      rw [hview] at hax
      cases hax

theorem untyped_of_respaced {args args' : List Argument} (h : List.Forall₂ Respaced args args')
    {index : Nat} {t : Text} (ht : nth untyped? args index = .ok t) :
    ∃ t', nth untyped? args' index = .ok t' ∧ t.Respaced t' := by
  obtain ⟨a, ha, hat⟩ := nth_eq_ok_iff.1 ht
  obtain ⟨a', ha', hrespaced⟩ := getElem?_of_respaced h ha
  cases hrespaced with
  | typed hnone =>
      rw [hnone] at hat
      cases hat
  | untyped hrespaced =>
      cases hat
      exact ⟨_, nth_eq_ok_iff.2 ⟨_, ha', rfl⟩, hrespaced⟩

end Argument

namespace ArgumentType

/-- A text that is an argument of a type is written without blanks, and is read
as an argument that is not untyped. -/
theorem typed_of_convert? {type : ArgumentType} (htype : type ≠ .untyped) {t : Text}
    {a : Argument} (ha : type.convert? t = some a) :
    a.untyped? = none ∧ (IsSolid t ∨ IsLiteral t) := by
  cases type with
  | dataName =>
      obtain ⟨hname, rfl⟩ := convert?_dataName_eq_some_iff.1 ha
      exact ⟨rfl, .inl (isSolid_of_isName hname)⟩
  | integer =>
      obtain ⟨n, hn, rfl⟩ := Option.map_eq_some_iff.1 ha
      exact ⟨rfl, .inl (isSolid_of_numeric (Literal.numeric_of_integer? hn).2)⟩
  | float =>
      obtain ⟨x, hx, rfl⟩ := Option.map_eq_some_iff.1 ha
      exact ⟨rfl, .inl (isSolid_of_numeric (Literal.numeric_of_float? hx).2)⟩
  | string =>
      obtain ⟨s, hs, rfl⟩ := Option.map_eq_some_iff.1 ha
      exact ⟨rfl, .inr (Text.isLiteral_of_unquote? hs)⟩
  | time =>
      simp only [convert?, Option.bind_eq_bind, Option.bind_eq_some_iff, Option.some.injEq] at ha
      obtain ⟨s, hs, _, -, rfl⟩ := ha
      exact ⟨rfl, .inr (Text.isLiteral_of_unquote? hs)⟩
  | untyped => exact absurd rfl htype

theorem eq_of_respaced {type : ArgumentType} (htype : type ≠ .untyped) {t t' : Text}
    {a : Argument} (ha : type.convert? t = some a) (h : Respaced t t') : t' = t := by
  rcases (typed_of_convert? htype ha).2 with hsolid | hliteral
  · exact h.eq_of_isSolid hsolid
  · exact h.eq_of_isLiteral hliteral

theorem typed_of_convertFirst? {types : List ArgumentType} (htypes : .untyped ∉ types) {t : Text}
    {a : Argument} (ha : convertFirst? types t = some a) : a.untyped? = none := by
  obtain ⟨type, htype, ha⟩ := List.exists_of_findSome?_eq_some ha
  refine (typed_of_convert? (fun heq => htypes ?_) ha).1
  rwa [← heq]

theorem convertFirst?_of_respaced {types : List ArgumentType} {t t' : Text} {a : Argument}
    (ha : convertFirst? types t = some a) (h : Respaced t t') :
    ∃ a', convertFirst? types t' = some a' ∧ a.Respaced a' := by
  induction types with
  | nil => cases ha
  | cons type types ih =>
      by_cases htype : type = .untyped
      · subst htype
        cases ha
        exact ⟨_, rfl, .untyped h⟩
      · simp only [convertFirst?, List.findSome?_cons] at ha ih ⊢
        cases hfirst : type.convert? t with
        | some b =>
            rw [hfirst] at ha
            cases ha
            rw [eq_of_respaced htype hfirst h, hfirst]
            exact ⟨a, rfl, .typed (typed_of_convert? htype hfirst).1⟩
        | none =>
            rw [hfirst] at ha
            cases hother : type.convert? t' with
            | none => exact ih ha
            | some b =>
                -- Such a text has no other spacing, so `t` would be converted too.
                rw [eq_of_respaced htype hother h.symm, hother] at hfirst
                cases hfirst

end ArgumentType

namespace Method

theorem ofCall?_of_respaced {t t' : Text} {m : Method} (hm : ofCall? t = some m)
    (h : Respaced t t') : ofCall? t' = some m := by
  simp only [ofCall?, Option.bind_eq_bind, Option.bind_eq_some_iff, Prod.exists] at hm ⊢
  obtain ⟨name, rest, hname, hm⟩ := hm
  obtain ⟨rest', hname', hrest⟩ := h.leadingName? hname
  refine ⟨name, rest', hname', ?_⟩
  split at hm
  · next hopen => rwa [if_pos ((hrest.head?_eq_some_iff (by decide)).1 hopen)]
  · cases hm

theorem ofCall?_eq_of_respaced {t t' : Text} (h : Respaced t t') : ofCall? t = ofCall? t' := by
  cases hm : ofCall? t with
  | some m => exact (ofCall?_of_respaced hm h).symm
  | none =>
      exact (h.eq_none (fun hm h => ⟨_, ofCall?_of_respaced hm h⟩) hm).symm

theorem isCalledBy_eq_of_respaced (m : Method) {t t' : Text} (h : Respaced t t') :
    m.isCalledBy t = m.isCalledBy t' := by
  rw [isCalledBy, isCalledBy, ofCall?_eq_of_respaced h]

theorem group?_of_respaced {m : Method} {t t' inner : Text} (hinner : m.group? t = some inner)
    (h : Respaced t t') : ∃ inner', m.group? t' = some inner' ∧ Respaced inner inner' := by
  simp only [group?, Option.bind_eq_bind, Option.bind_eq_some_iff] at hinner ⊢
  obtain ⟨rest, hrest, hinner⟩ := hinner
  obtain ⟨rest', hrest', hrespaced⟩ := h.dropPrefix? m.isSolid_label hrest
  split at hinner
  · next ss hss =>
    obtain ⟨ss', inner', hss', hinner', hbody⟩ := hrespaced.enclosed? hss hinner
    refine ⟨inner', ⟨rest', hrest', ?_⟩, hbody⟩
    rw [hss']
    exact hinner'
  · cases hinner

theorem arguments_of_respaced {m : Method} {t t' : Text} {ts : List Text}
    (hts : m.arguments t = .ok ts) (h : Respaced t t') :
    ∃ ts', m.arguments t' = .ok ts' ∧ List.Forall₂ Respaced ts ts' := by
  unfold arguments at hts ⊢
  split at hts
  · cases hts
  · next inner hinner =>
    obtain ⟨inner', hinner', hrespaced⟩ := group?_of_respaced hinner h
    simp only [hinner', ← hrespaced.allBlank_eq]
    split at hts
    · next hblank =>
      cases hts
      rw [if_pos hblank]
      exact ⟨[], rfl, .nil⟩
    · next hblank =>
      rw [if_neg hblank]
      exact hrespaced.split (by decide) hts

theorem convert_of_respaced {m : Method} {ts ts' : List Text} {format : List (List ArgumentType)}
    {args : List Argument} (hargs : m.convert ts format = .ok args)
    (h : List.Forall₂ Respaced ts ts') :
    ∃ args', m.convert ts' format = .ok args' ∧
      List.Forall₂ Argument.Respaced args args' := by
  simp only [convert, convertFrom_eq_ok_iff] at hargs ⊢
  induction h generalizing format args with
  | nil =>
      cases hargs
      exact ⟨[], .nil, .nil⟩
  | cons hfirst _ ih =>
      cases format with
      | nil =>
          cases hargs
          exact ⟨[], .nil, .nil⟩
      | cons types format =>
          rw [List.zip_cons_cons] at hargs
          cases hargs with
          | cons ha hargs =>
              obtain ⟨a', ha', hrespaced⟩ := ArgumentType.convertFirst?_of_respaced ha hfirst
              obtain ⟨args', hargs', hrest⟩ := ih hargs
              exact ⟨a' :: args', .cons ha' hargs', .cons hrespaced hrest⟩

theorem typed_of_convert {m : Method} {ts : List Text} {format : List (List ArgumentType)}
    (hformat : ∀ types ∈ format, .untyped ∉ types) {args : List Argument}
    (hargs : m.convert ts format = .ok args) : ∀ a ∈ args, a.untyped? = none := by
  intro a ha
  obtain ⟨place, hplace, hconverts⟩ :=
    forall₂_exists_of_mem_right (convertFrom_eq_ok_iff.1 hargs) ha
  exact ArgumentType.typed_of_convertFirst? (hformat _ (List.of_mem_zip hplace).2) hconverts

theorem call_of_respaced {m : Method} {t t' : Text} {format : List (List ArgumentType)}
    {args : List Argument} (hargs : m.call t format = .ok args) (h : Respaced t t') :
    ∃ args', m.call t' format = .ok args' ∧ List.Forall₂ Argument.Respaced args args' := by
  simp only [call, Except.bind_eq_ok_iff] at hargs ⊢
  obtain ⟨ts, hts, hargs⟩ := hargs
  obtain ⟨ts', hts', hrespaced⟩ := arguments_of_respaced hts h
  split at hargs
  · next hlen =>
    obtain ⟨args', hargs', hall⟩ := convert_of_respaced hargs hrespaced
    refine ⟨args', ⟨ts', hts', ?_⟩, hall⟩
    rwa [if_pos (hrespaced.length_eq ▸ hlen)]
  · cases hargs

/-- The arguments of a format without untyped places do not change. -/
theorem convert_eq_of_respaced {m : Method} {ts ts' : List Text}
    {format : List (List ArgumentType)} (hformat : ∀ types ∈ format, .untyped ∉ types)
    {args : List Argument} (hargs : m.convert ts format = .ok args)
    (h : List.Forall₂ Respaced ts ts') : m.convert ts' format = .ok args := by
  obtain ⟨args', hargs', hall⟩ := convert_of_respaced hargs h
  rwa [Argument.eq_of_respaced hall (typed_of_convert hformat hargs)] at hargs'

theorem call_eq_of_respaced {m : Method} {t t' : Text} {format : List (List ArgumentType)}
    (hformat : ∀ types ∈ format, .untyped ∉ types) {args : List Argument}
    (hargs : m.call t format = .ok args) (h : Respaced t t') : m.call t' format = .ok args := by
  simp only [call, Except.bind_eq_ok_iff] at hargs ⊢
  obtain ⟨ts, hts, hargs⟩ := hargs
  obtain ⟨ts', hts', hrespaced⟩ := arguments_of_respaced hts h
  refine ⟨ts', hts', ?_⟩
  split at hargs
  · next hlen =>
    rw [if_pos (hrespaced.length_eq ▸ hlen)]
    exact convert_eq_of_respaced hformat hargs hrespaced
  · cases hargs

/-- What is made of the arguments of a call is made of them in the respaced text. -/
theorem call_bind_of_respaced {α : Type} {m : Method} {t t' : Text}
    {format : List (List ArgumentType)} {f : List Argument → Except Fault α} {x : α}
    (hformat : ∀ types ∈ format, .untyped ∉ types) (hx : m.call t format >>= f = .ok x)
    (h : Respaced t t') : m.call t' format >>= f = .ok x := by
  obtain ⟨args, hargs, hx⟩ := Except.bind_eq_ok_iff.1 hx
  exact Except.bind_eq_ok_iff.2 ⟨args, call_eq_of_respaced hformat hargs h, hx⟩

theorem expectAtLeast_congr (m : Method) {ts ts' : List Text} (h : ts.length = ts'.length)
    (least : Nat) : m.expectAtLeast ts' least = m.expectAtLeast ts least := by
  rw [expectAtLeast, expectAtLeast, h]

theorem expectBetween_congr (m : Method) {ts ts' : List Text} (h : ts.length = ts'.length)
    (least most : Nat) : m.expectBetween ts' least most = m.expectBetween ts least most := by
  rw [expectBetween, expectBetween, h]

end Method

end Overlay
