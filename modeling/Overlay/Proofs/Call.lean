import Overlay.Call.Arguments
import Overlay.Proofs.Text.Parts

/-!
Calls that were read. Conversion goes argument by argument: each argument is
the value of the first type of its position that its text writes, and a call
of fixed format has exactly one argument for each position.
-/

namespace Overlay

namespace Argument

theorem nth_eq_ok_iff {α : Type} {view : Argument → Option α} {args : List Argument}
    {index : Nat} {x : α} :
    nth view args index = .ok x ↔ ∃ a, args[index]? = some a ∧ view a = some x := by
  unfold nth
  split
  · next h => simp [h]
  · next a h =>
    split
    · next hview => simp [h, hview]
    · next y hview => simp [h, hview]

end Argument

namespace ArgumentType

theorem convertFirst?_singleton (type : ArgumentType) (t : Text) :
    convertFirst? [type] t = type.convert? t := by
  cases h : type.convert? t <;> simp [convertFirst?, h]

theorem convert?_dataName_eq_some_iff {t : Text} {a : Argument} :
    dataName.convert? t = some a ↔ t.isName = true ∧ a = .dataName t := by
  by_cases h : t.isName = true <;> simp [convert?, h, eq_comm]

end ArgumentType

namespace Method

/-- A call is a name and what stands in a pair of round brackets. -/
theorem eq_of_group? {m : Method} {t inner : Text} (h : m.group? t = some inner) :
    t = m.label ++ ('(' :: inner ++ [')']) ∧ ∃ bs, Text.Balanced inner bs := by
  simp only [group?, Option.bind_eq_bind, Option.bind_eq_some_iff] at h
  obtain ⟨rest, hrest, h⟩ := h
  obtain rfl := Text.dropPrefix?_eq_some_iff.1 hrest
  split at h
  · next ss hss =>
    obtain ⟨as, has, rfl⟩ := Text.brackets_eq_ok_iff.1 hss
    obtain ⟨rfl, hinner⟩ := (Text.enclosed?_eq_some_iff has).1 h
    exact ⟨rfl, hinner⟩
  · cases h

theorem isName_label (m : Method) : m.label.isName = true := by cases m <;> decide

theorem isSolid_label (m : Method) : Text.IsSolid m.label := Text.isSolid_of_isName m.isName_label

theorem exists_group_of_arguments {m : Method} {t : Text} {ts : List Text}
    (h : m.arguments t = .ok ts) : ∃ inner, m.group? t = some inner := by
  unfold arguments at h
  split at h
  · cases h
  · next inner hinner => exact ⟨inner, hinner⟩

theorem exists_group_of_call {m : Method} {t : Text} {format : List (List ArgumentType)}
    {args : List Argument} (h : m.call t format = .ok args) :
    ∃ inner, m.group? t = some inner := by
  obtain ⟨ts, hts, -⟩ := Except.bind_eq_ok_iff.1 h
  exact exists_group_of_arguments hts

/-- Whether an argument is the value that its text has in its position. -/
def Converts (place : Text × List ArgumentType) (a : Argument) : Prop :=
  ArgumentType.convertFirst? place.2 place.1 = some a

theorem convertFrom_eq_ok_iff {m : Method} {position : Nat} {ts : List Text}
    {format : List (List ArgumentType)} {args : List Argument} :
    m.convertFrom position ts format = .ok args ↔
      List.Forall₂ Converts (ts.zip format) args := by
  induction ts generalizing position format args with
  | nil => simp [convertFrom, eq_comm]
  | cons t ts ih =>
      cases format with
      | nil => simp [convertFrom, eq_comm]
      | cons types format =>
          rw [List.zip_cons_cons, List.forall₂_cons_left_iff, convertFrom]
          cases hconvert : ArgumentType.convertFirst? types t with
          | none => simp [Converts, hconvert]
          | some a =>
              simp only [Except.bind_eq_ok_iff, Except.pure_eq_ok_iff, ih, Converts, hconvert,
                Option.some.injEq]
              constructor
              · rintro ⟨rest, hrest, rfl⟩
                exact ⟨a, rest, rfl, hrest, rfl⟩
              · rintro ⟨_, rest, rfl, hrest, rfl⟩
                exact ⟨rest, hrest, rfl⟩

theorem call_eq_ok_iff {m : Method} {t : Text} {format : List (List ArgumentType)}
    {args : List Argument} :
    m.call t format = .ok args ↔
      ∃ ts, m.arguments t = .ok ts ∧ ts.length = format.length ∧
        List.Forall₂ Converts (ts.zip format) args := by
  simp only [call, convert, Except.bind_eq_ok_iff]
  constructor
  · rintro ⟨ts, hts, h⟩
    split at h
    · next hlen => exact ⟨ts, hts, hlen, convertFrom_eq_ok_iff.1 h⟩
    · cases h
  · rintro ⟨ts, hts, hlen, h⟩
    refine ⟨ts, hts, ?_⟩
    rw [if_pos hlen]
    exact convertFrom_eq_ok_iff.2 h

theorem expectAtLeast_eq_ok_iff {m : Method} {ts : List Text} {least : Nat} :
    m.expectAtLeast ts least = .ok () ↔ least ≤ ts.length := by
  simp [expectAtLeast]

theorem expectBetween_eq_ok_iff {m : Method} {ts : List Text} {least most : Nat} :
    m.expectBetween ts least most = .ok () ↔ least ≤ ts.length ∧ ts.length ≤ most := by
  simp [expectBetween]

/-- The text of an argument that must be a data name is a name. -/
theorem isName_of_call {m : Method} {t : Text} {format : List (List ArgumentType)}
    {args : List Argument} {name : Text} (h : m.call t ([.dataName] :: format) = .ok args)
    (hname : Argument.nth Argument.text? args 0 = .ok name) : name.isName = true := by
  obtain ⟨ts, -, hlen, hargs⟩ := call_eq_ok_iff.1 h
  obtain ⟨a, ha, htext⟩ := Argument.nth_eq_ok_iff.1 hname
  cases ts with
  | nil => cases hlen
  | cons t ts =>
      obtain ⟨b, rest, hb, -, rfl⟩ := List.forall₂_cons_left_iff.1 hargs
      rw [Converts, ArgumentType.convertFirst?_singleton,
        ArgumentType.convert?_dataName_eq_some_iff] at hb
      obtain ⟨hisName, rfl⟩ := hb
      cases ha
      cases htext
      exact hisName

end Method

end Overlay
