import Overlay.Proofs.Call
import Overlay.Proofs.Literal
import Overlay.Proofs.Text.Pieces
import Overlay.VirtualProperty
import Mathlib.Data.List.TakeWhile

/-!
Written calls. The arguments of a call are found by cutting at commas, so they
are found as they were written if no comma stands in one of them outside of
literals and brackets. Numbers, names, literals and calls are such arguments.
-/

namespace Overlay

open Text

/-! Arguments. -/

/-- Whether a text is found again as an argument. -/
structure IsArgument (t : Text) : Prop where
  nonempty : t ≠ []
  starts : StartsSolid t
  ends : EndsSolid t
  hides : Hides ',' t

namespace IsArgument

theorem trim_eq {t : Text} (h : IsArgument t) : t.trim = t :=
  trim_eq_self_iff.2 ⟨h.starts, h.ends⟩

theorem not_allBlank {t : Text} (h : IsArgument t) : t.allBlank = false := by
  obtain ⟨c, rest, rfl⟩ := List.exists_cons_of_ne_nil h.nonempty
  rw [Bool.eq_false_iff]
  intro hblank
  have hc := startsSolid_cons.1 h.starts
  rw [(allBlank_cons.1 hblank).1] at hc
  cases hc

theorem of_solid {t : Text} (hne : t ≠ []) (h : IsSolid t) (hcomma : ',' ∉ t) :
    IsArgument t where
  nonempty := hne
  starts := fun c hc => (h c (List.mem_of_mem_head? hc)).2
  ends := fun c hc => (h c (List.mem_of_getLast? hc)).2
  hides := .of_plain (fun c hc => (h c hc).1) hcomma

theorem of_isName {t : Text} (h : t.isName = true) : IsArgument t :=
  of_solid (isName_iff.1 h).1 (isSolid_of_isName h)
    (not_mem_of_isName h (by decide))

theorem of_numeric {t : Text} (h : t ≠ [] ∧ ∀ c ∈ t, isNumeric c = true) : IsArgument t :=
  of_solid h.1 (fun c hc => ⟨isPlain_of_isNumeric (h.2 c hc), isBlank_of_isNumeric (h.2 c hc)⟩)
    fun hmem => absurd (h.2 _ hmem) (by decide)

theorem of_isLiteral {t : Text} (h : IsLiteral t) : IsArgument t := by
  have hbalanced := Balanced.of_isLiteral h
  obtain ⟨hne, hstart, hend⟩ := hbalanced.solid_of_literal
  exact ⟨hne, hstart, hend, .of_literal hbalanced⟩

/-- A group of round brackets with a name before it. -/
theorem of_group {m : Method} {inner : Text} {bs : List Token} (h : Balanced inner bs) :
    IsArgument (m.label ++ ('(' :: inner ++ [')'])) := by
  have hgroup := Balanced.group (show closer? '(' = some ')' from rfl) h .nil
  obtain ⟨hne, -, hend⟩ := hgroup.solid_of_literal
  have hlabel := of_isName m.isName_label
  exact ⟨by simp, hlabel.starts.append hlabel.nonempty, hend.append hne,
    (Hides.of_literal hgroup).name_append m.isName_label (by decide)⟩

end IsArgument

/-! Numbers. -/

/-- There is no point in a whole number. -/
theorem Text.float?_of_isDigits {t : Text} (h : isDigits t.signed.2 = true) :
    t.float? = none := by
  have hall : ∀ c ∈ t.signed.2, isDigit c = true := List.all_eq_true.1 (Bool.and_eq_true_iff.1 h).2
  have hrest : t.signed.2.dropWhile isDigit = [] := List.dropWhile_eq_nil_iff.2 hall
  simp only [float?, hrest]

theorem Text.float?_of_integer? {t : Text} {n : Int64} (h : t.integer? = some n) :
    t.float? = none := by
  simp only [integer?, Option.ite_none_right_eq_some] at h
  exact float?_of_isDigits h.1.1

namespace Literal

/-- Whether a text is a whole number or a float with this value. -/
def IsNumeral (l : Literal) (t : Text) : Prop :=
  match l with
  | integer n => t.integer? = some n
  | float x => t.float? = some x
  | string _ => False

theorem isNumeral_iff {l : Literal} {t : Text} :
    l.IsNumeral t ↔ ∃ a, ArgumentType.convertFirst? ArgumentType.number t = some a ∧
      Argument.literal? a = some l := by
  simp only [ArgumentType.convertFirst?, ArgumentType.number, ArgumentType.convert?,
    List.findSome?_cons]
  cases hinteger : t.integer? with
  | some n =>
      cases l <;> simp [IsNumeral, hinteger, float?_of_integer? hinteger, Argument.literal?]
  | none =>
      cases hfloat : t.float? <;> cases l <;>
        simp [IsNumeral, hinteger, hfloat, Argument.literal?]

theorem IsNumeral.numeric {l : Literal} {t : Text} (h : l.IsNumeral t) :
    t ≠ [] ∧ ∀ c ∈ t, isNumeric c = true := by
  cases l with
  | integer n => exact numeric_of_integer? h
  | float x => exact numeric_of_float? h
  | string s => exact h.elim

end Literal

/-! Calls. -/

namespace Method

theorem group?_of_balanced (m : Method) {inner : Text} {bs : List Token}
    (h : Balanced inner bs) : m.group? (m.label ++ ('(' :: inner ++ [')'])) = some inner := by
  have hgroup := Balanced.group (show closer? '(' = some ')' from rfl) h .nil
  have hbrackets := brackets_eq_ok_iff.2 ⟨_, hgroup, rfl⟩
  simp only [group?, dropPrefix?_append, Option.bind_eq_bind, Option.bind_some]
  rw [hbrackets]
  exact (enclosed?_eq_some_iff hgroup).2 ⟨rfl, bs, h⟩

theorem ofCall?_of_group (m : Method) (rest : Text) :
    ofCall? (m.label ++ '(' :: rest) = some m := by
  have hname := leadingName?_eq_some_iff.2 ⟨m.isName_label, rfl,
    show EndsWord ('(' :: rest) from fun c hc => by cases hc; decide⟩
  simp [ofCall?, hname]

/-- Whether a text is a call with arguments: the name of the method, a bracket just
after it, and the arguments with commas between them and any blanks around them. -/
def IsWritten (m : Method) (args : List Text) (t : Text) : Prop :=
  ∃ raws, List.Forall₂ IsPadded args raws ∧
    t = m.label ++ ('(' :: [','].intercalate raws ++ [')'])

theorem isWritten_of_arguments {m : Method} {args : List Text} {t : Text}
    (h : m.arguments t = .ok args) (hne : args ≠ []) : m.IsWritten args t := by
  unfold arguments at h
  split at h
  · cases h
  · next inner hinner =>
    split at h
    · cases h
      exact absurd rfl hne
    · obtain ⟨raws, rfl, rfl⟩ := exists_intercalate_of_split (List.cons_ne_nil ',' []) h
      exact ⟨raws, isPadded_map_trim raws, (eq_of_group? hinner).1⟩

namespace IsWritten

variable {m : Method} {args : List Text} {t : Text}

theorem ofCall? (h : m.IsWritten args t) : ofCall? t = some m := by
  obtain ⟨raws, -, rfl⟩ := h
  exact m.ofCall?_of_group _

theorem isArgument (h : m.IsWritten args t) (hargs : ∀ arg ∈ args, IsArgument arg) :
    IsArgument t := by
  obtain ⟨raws, hraws, rfl⟩ := h
  obtain ⟨xs, hxs, -⟩ := @balanced_intercalate ',' [] (by decide) raws
    (Hides.forall_padded (by decide) hraws fun arg harg => (hargs arg harg).hides)
  exact .of_group hxs

/-- The arguments with which a call is written are found. -/
theorem arguments (h : m.IsWritten args t) (hne : args ≠ [])
    (hargs : ∀ arg ∈ args, IsArgument arg) : m.arguments t = .ok args := by
  obtain ⟨raws, hraws, rfl⟩ := h
  have hhides : ∀ arg ∈ args, Hides ',' arg := fun arg harg => (hargs arg harg).hides
  obtain ⟨xs, hxs, -⟩ := @balanced_intercalate ',' [] (by decide) raws
    (Hides.forall_padded (by decide) hraws hhides)
  -- Brackets with blanks only hold no argument, so one that is not blank is needed.
  have hblank : ¬allBlank ([','].intercalate raws) = true := by
    cases hraws with
    | nil => exact absurd rfl hne
    | @cons arg raw args raws harg _ =>
        obtain ⟨b, b', -, -, rfl⟩ := harg
        intro hall
        have hfirst : (b ++ arg ++ b').allBlank = true := by
          cases raws with
          | nil => rwa [List.intercalate_singleton] at hall
          | cons next raws =>
              rw [List.intercalate_cons_cons, List.append_assoc] at hall
              exact (allBlank_append.1 hall).1
        have harg := (allBlank_append.1 (allBlank_append.1 hfirst).1).2
        rw [(hargs arg List.mem_cons_self).not_allBlank] at harg
        cases harg
  have hparts := split_intercalate_padded (by decide) (by decide) hraws hne hhides
  rw [List.map_congr_left fun arg harg => (hargs arg harg).trim_eq, List.map_id'] at hparts
  simp only [Method.arguments, m.group?_of_balanced hxs, if_neg hblank, hparts]

end IsWritten

end Method

/-! Virtual properties. -/

namespace VirtualProperty

/-- Whether a text is the call that gives a virtual property, `virtual(name, "…")`,
with a name and an expression that is not blank. -/
def IsWritten (p : VirtualProperty) (t : Text) : Prop :=
  p.name.isName = true ∧ p.expression.allBlank = false ∧ ∃ body, IsBody body ∧
    p.expression = unescape body ∧ Method.virtual.IsWritten [p.name, '"' :: body ++ ['"']] t

theorem forall_isArgument {name body : Text} (hname : name.isName = true) (hbody : IsBody body) :
    ∀ arg ∈ [name, '"' :: body ++ ['"']], IsArgument arg :=
  List.forall_mem_cons.2 ⟨.of_isName hname,
    List.forall_mem_singleton.2 (.of_isLiteral ⟨body, hbody, rfl⟩)⟩

theorem IsWritten.isArgument {p : VirtualProperty} {t : Text} (h : p.IsWritten t) :
    IsArgument t := by
  obtain ⟨hname, -, body, hbody, -, hcall⟩ := h
  exact hcall.isArgument (forall_isArgument hname hbody)

theorem ofText_eq_ok_iff {p : VirtualProperty} {t : Text} : ofText t = .ok p ↔ p.IsWritten t := by
  simp only [ofText, Except.bind_eq_ok_iff, Method.call_eq_ok_iff]
  constructor
  · rintro ⟨args, ⟨ts, hts, hlen, hargs⟩, expression, hexpression, h⟩
    split at h
    · cases h
    · next hblank =>
      simp only [Except.bind_eq_ok_iff, Except.pure_eq_ok_iff] at h
      obtain ⟨name, hname, rfl⟩ := h
      match ts, hlen with
      | [nameText, literal], _ =>
        obtain ⟨a, _, ha, hrest, rfl⟩ := List.forall₂_cons_left_iff.1 hargs
        obtain ⟨b, _, hb, hnil, rfl⟩ := List.forall₂_cons_left_iff.1 hrest
        cases hnil
        rw [Method.Converts, ArgumentType.convertFirst?_singleton] at ha hb
        obtain ⟨hisName, rfl⟩ := ArgumentType.convert?_dataName_eq_some_iff.1 ha
        obtain ⟨s, hs, rfl⟩ := Option.map_eq_some_iff.1 hb
        obtain ⟨body, hbody, rfl, rfl⟩ := unquote?_eq_some_iff.1 hs
        cases hname
        cases hexpression
        exact ⟨hisName, by simpa using hblank, body, hbody, rfl,
          Method.isWritten_of_arguments hts (List.cons_ne_nil _ _)⟩
  · rintro ⟨hname, hblank, body, hbody, hexpression, hwritten⟩
    have hts := hwritten.arguments (List.cons_ne_nil _ _) (forall_isArgument hname hbody)
    have hliteral := unquote?_eq_some_iff.2 ⟨body, hbody, rfl, hexpression⟩
    refine ⟨[.dataName p.name, .string p.expression], ⟨_, hts, rfl, ?_⟩, p.expression, rfl, ?_⟩
    · refine .cons ?_ (.cons ?_ .nil)
      · rw [Method.Converts, ArgumentType.convertFirst?_singleton]
        exact ArgumentType.convert?_dataName_eq_some_iff.2 ⟨hname, rfl⟩
      · rw [Method.Converts, ArgumentType.convertFirst?_singleton]
        exact congrArg (Option.map Argument.string) hliteral
    · rw [if_neg (by simp [hblank])]
      rfl

end VirtualProperty

end Overlay
