import Overlay.Proofs.Call
import Overlay.Proofs.Failure.Basic

/-!
Failures of calls. What a call says that it takes is what its arguments are: there is
one for each position of the format, of one of the types of this position. So to look
at an argument never fails in a position whose types all have the view that is wanted,
whatever the text of the call.
-/

namespace Overlay

namespace Argument

/-- Whether an argument is one of a type. An untyped one is a part of a text that was
cut, so it is balanced. -/
inductive HasType : ArgumentType → Argument → Prop
  | dataName (name : Text) : HasType .dataName (.dataName name)
  | integer (n : Int64) : HasType .integer (.integer n)
  | float (x : Float64) : HasType .float (.float x)
  | string (s : Text) : HasType .string (.string s)
  | time {s : Text} : (Instant.ofText? s).isSome = true → HasType .time (.time s)
  | untyped {t : Text} : t.IsBalanced → HasType .untyped (.untyped t)

/-- Whether an argument is one of the types that its position allows. -/
def Fits (types : List ArgumentType) (a : Argument) : Prop := ∃ type ∈ types, HasType type a

theorem hasType_of_convert? {type : ArgumentType} {t : Text} {a : Argument} (ht : t.IsBalanced)
    (h : type.convert? t = some a) : HasType type a := by
  cases type with
  | dataName =>
      obtain ⟨-, rfl⟩ := ArgumentType.convert?_dataName_eq_some_iff.1 h
      exact .dataName t
  | integer =>
      obtain ⟨n, -, rfl⟩ := Option.map_eq_some_iff.1 h
      exact .integer n
  | float =>
      obtain ⟨x, -, rfl⟩ := Option.map_eq_some_iff.1 h
      exact .float x
  | string =>
      obtain ⟨s, -, rfl⟩ := Option.map_eq_some_iff.1 h
      exact .string s
  | time =>
      simp only [ArgumentType.convert?, Option.bind_eq_bind, Option.bind_eq_some_iff,
        Option.some.injEq] at h
      obtain ⟨s, -, instant, hinstant, rfl⟩ := h
      exact .time (Option.isSome_of_eq_some hinstant)
  | untyped =>
      cases h
      exact .untyped ht

theorem fits_of_convertFirst? {types : List ArgumentType} {t : Text} {a : Argument}
    (ht : t.IsBalanced) (h : ArgumentType.convertFirst? types t = some a) : Fits types a := by
  obtain ⟨type, hmem, htype⟩ := List.exists_of_findSome?_eq_some h
  exact ⟨type, hmem, hasType_of_convert? ht htype⟩

/-- Whether all arguments of some types have a view. -/
def Shows {α : Type} (view : Argument → Option α) (types : List ArgumentType) : Prop :=
  ∀ type ∈ types, ∀ a, HasType type a → ∃ x, view a = some x

theorem shows_text : Shows text? [.dataName, .string, .time] := by
  intro type htype a ha
  cases ha <;> first | exact ⟨_, rfl⟩ | simp at htype

theorem shows_literal : Shows literal? [.integer, .float, .string, .time] := by
  intro type htype a ha
  cases ha <;> first | exact ⟨_, rfl⟩ | simp at htype

theorem shows_integer : Shows integer? [.integer] := by
  intro type htype a ha
  cases ha <;> first | exact ⟨_, rfl⟩ | simp at htype

theorem shows_untyped : Shows untyped? [.untyped] := by
  intro type htype a ha
  cases ha <;> first | exact ⟨_, rfl⟩ | simp at htype

section

variable {α : Type} {format : List (List ArgumentType)} {args : List Argument}

theorem exists_fits (h : List.Forall₂ Fits format args) {index : Nat} {types : List ArgumentType}
    (hindex : format[index]? = some types) : ∃ a, args[index]? = some a ∧ Fits types a := by
  induction h generalizing index with
  | nil => simp at hindex
  | @cons types' a format args hfits _ ih =>
      cases index with
      | zero =>
          cases hindex
          exact ⟨a, rfl, hfits⟩
      | succ index => exact ih (by simpa using hindex)

/-- A view of an argument is there when all types of its position have it. -/
theorem exists_nth {view : Argument → Option α} {shown : List ArgumentType}
    (hview : Shows view shown) (h : List.Forall₂ Fits format args) {index : Nat}
    {types : List ArgumentType} (hindex : format[index]? = some types)
    (htypes : ∀ type ∈ types, type ∈ shown) : ∃ x, nth view args index = .ok x := by
  obtain ⟨a, ha, type, htype, hhas⟩ := exists_fits h hindex
  obtain ⟨x, hx⟩ := hview type (htypes type htype) a hhas
  exact ⟨x, nth_eq_ok_iff.2 ⟨a, ha, hx⟩⟩

/-- An argument that has the view that is wanted may be used. -/
theorem semantic_nth_bind {β : Type} {view : Argument → Option α} {shown : List ArgumentType}
    (hview : Shows view shown) (h : List.Forall₂ Fits format args) {index : Nat}
    {types : List ArgumentType} (hindex : format[index]? = some types)
    (htypes : ∀ type ∈ types, type ∈ shown) {f : α → Except Fault β}
    (hnext : ∀ x, nth view args index = .ok x → Semantic (f x)) :
    Semantic (nth view args index >>= f) :=
  (FailsOnly.of_ok (exists_nth hview h hindex htypes)).bind hnext

theorem isBalanced_of_nth (h : List.Forall₂ Fits format args) {index : Nat} {t : Text}
    (ht : nth untyped? args index = .ok t) : t.IsBalanced := by
  obtain ⟨a, ha, hview⟩ := nth_eq_ok_iff.1 ht
  obtain ⟨types, -, type, -, hhas⟩ := forall₂_exists_of_mem_right h (List.mem_of_getElem? ha)
  cases hhas with
  | untyped hbalanced =>
      cases hview
      exact hbalanced
  | _ => cases hview

end

end Argument

theorem Literal.semantic_ofText (t : Text) : Semantic (Literal.ofText t) := by
  unfold ofText
  split
  · exact .ok _
  · exact .error ⟨rfl, rfl⟩

namespace Method

open Text

theorem semantic_arguments (m : Method) (t : Text) : Semantic (m.arguments t) := by
  unfold arguments
  split
  · exact .error ⟨rfl, rfl⟩
  · next inner hinner =>
    split
    · exact .ok _
    · exact IsBalanced.semantic_split (eq_of_group? hinner).2 _ _

theorem isBalanced_of_mem_arguments {m : Method} {t s : Text} {ts : List Text}
    (h : m.arguments t = .ok ts) (hs : s ∈ ts) : s.IsBalanced := by
  unfold arguments at h
  split at h
  · cases h
  · split at h
    · cases h
      cases hs
    · exact IsBalanced.of_mem_split (List.cons_ne_nil _ _) h hs

theorem semantic_convertFrom (m : Method) (position : Nat) (ts : List Text)
    (format : List (List ArgumentType)) : Semantic (m.convertFrom position ts format) := by
  fun_induction convertFrom m position ts format
  case case1 => exact .error ⟨rfl, rfl⟩
  case case2 ih => exact ih.bind fun _ _ => .ok _
  case case3 => exact .ok _

theorem semantic_convert (m : Method) (ts : List Text) (format : List (List ArgumentType)) :
    Semantic (m.convert ts format) := semantic_convertFrom m 1 ts format

theorem semantic_expectAtLeast (m : Method) (ts : List Text) (least : Nat) :
    Semantic (m.expectAtLeast ts least) := by
  unfold expectAtLeast
  split
  · exact .error ⟨rfl, rfl⟩
  · exact .ok _

theorem semantic_expectBetween (m : Method) (ts : List Text) (least most : Nat) :
    Semantic (m.expectBetween ts least most) := by
  unfold expectBetween
  split
  · exact .error ⟨rfl, rfl⟩
  · exact .ok _

/-- There is one argument for each position, and it fits. -/
theorem fits_of_converts {ts : List Text} {format : List (List ArgumentType)}
    {args : List Argument} (hts : ∀ t ∈ ts, t.IsBalanced) (hlen : ts.length = format.length)
    (h : List.Forall₂ Converts (ts.zip format) args) :
    List.Forall₂ Argument.Fits format args := by
  induction ts generalizing format args with
  | nil =>
      obtain rfl := List.length_eq_zero_iff.1 hlen.symm
      cases h
      exact .nil
  | cons t ts ih =>
      obtain ⟨types, format, rfl⟩ := List.exists_cons_of_length_eq_add_one hlen.symm
      obtain ⟨a, args, ha, hargs, rfl⟩ := List.forall₂_cons_left_iff.1 h
      refine .cons (Argument.fits_of_convertFirst? (hts t List.mem_cons_self) ha) ?_
      exact ih (fun s hs => hts s (List.mem_cons_of_mem t hs)) (by simpa using hlen) hargs

theorem fits_of_convert {m : Method} {ts : List Text} {format : List (List ArgumentType)}
    {args : List Argument} (hts : ∀ t ∈ ts, t.IsBalanced) (hlen : ts.length = format.length)
    (h : m.convert ts format = .ok args) : List.Forall₂ Argument.Fits format args :=
  fits_of_converts hts hlen (convertFrom_eq_ok_iff.1 h)

theorem semantic_call (m : Method) (t : Text) (format : List (List ArgumentType)) :
    Semantic (m.call t format) := by
  refine (semantic_arguments m t).bind fun ts _ => ?_
  split
  · exact semantic_convert m ts format
  · exact .error ⟨rfl, rfl⟩

theorem fits_of_call {m : Method} {t : Text} {format : List (List ArgumentType)}
    {args : List Argument} (h : m.call t format = .ok args) :
    List.Forall₂ Argument.Fits format args := by
  obtain ⟨ts, hts, hlen, hall⟩ := call_eq_ok_iff.1 h
  exact fits_of_converts (fun s hs => isBalanced_of_mem_arguments hts hs) hlen hall

/-- The arguments of a call may be used as what its format says. -/
theorem semantic_call_bind {β : Type} {m : Method} {t : Text} {format : List (List ArgumentType)}
    {f : List Argument → Except Fault β}
    (hnext : ∀ args, List.Forall₂ Argument.Fits format args → Semantic (f args)) :
    Semantic (m.call t format >>= f) :=
  (semantic_call m t format).bind fun args hargs => hnext args (fits_of_call hargs)

end Method

end Overlay
