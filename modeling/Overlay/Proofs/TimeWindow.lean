import Overlay.Proofs.Arguments
import Overlay.Proofs.Checks.Processing
import Overlay.Proofs.Instant

/-!
Time windows, read completely. A literal of a time is put into the code as it is written,
because the text of an instant is the one from which it was read; and the two instants of a
window are compared, which is the same as comparing their texts.
-/

namespace Overlay

open Text

/-! The arguments of a window. -/

theorem Text.escapeQuotes_eq_self {s : Text} (h : '"' ∉ s) : escapeQuotes s = s := by
  induction s with
  | nil => rfl
  | cons c s ih =>
      obtain ⟨hc, hs⟩ := not_or.1 (mt List.mem_cons.2 h)
      rw [escapeQuotes_char (Ne.symm hc), ih hs]

/-- Nothing in the text of an instant is escaped in its literal. -/
theorem Instant.unquote?_eq_some_iff {t s : Text} {i : Instant} (hs : ofText? s = some i) :
    t.unquote? = some s ↔ t = '"' :: s ++ ['"'] := by
  have hall := (ofText?_eq_some_iff.1 hs).2.forall_mem
  have hplain {c : Char} (hc : ¬(isDigit c = true ∨ c = 'T')) : c ∉ s := fun hmem =>
    hc (hall c hmem)
  have hliteral : literalOf s = '"' :: s ++ ['"'] := by
    rw [literalOf, escapeQuotes_eq_self (hplain (by decide))]
  rw [← Literal.isWritten_string_iff, ← hliteral]
  constructor
  · rintro ⟨-⟩
    rfl
  · rintro rfl
    exact .string fun hlast => hplain (by decide) (List.mem_of_getLast? hlast)

theorem Method.converts_time_iff {t : Text} {a : Argument} :
    Converts (t, [.time]) a ↔
      ∃ s i, Instant.ofText? s = some i ∧ t = '"' :: s ++ ['"'] ∧ a = .time s := by
  rw [Converts, ArgumentType.convertFirst?_singleton]
  simp only [ArgumentType.convert?, Option.bind_eq_bind, Option.bind_eq_some_iff,
    Option.some.injEq]
  constructor
  · rintro ⟨s, hs, i, hi, rfl⟩
    exact ⟨s, i, hi, (Instant.unquote?_eq_some_iff hi).1 hs, rfl⟩
  · rintro ⟨s, i, hi, ht, rfl⟩
    exact ⟨s, (Instant.unquote?_eq_some_iff hi).2 ht, i, hi, rfl⟩

theorem TimeUnit.ofName?_eq_some_iff {t : Text} {u : TimeUnit} :
    ofName? t = some u ↔ t = u.name.toList := by
  constructor
  · intro h
    have hname := List.find?_some (show all.find? (fun u => u.name.toList = t) = some u from h)
    exact (of_decide_eq_true hname).symm
  · rintro rfl
    cases u <;> decide

namespace TimeWindow

/-- Whether a text is the call of a window, with these literals of its times. -/
structure IsWritten (w : TimeWindow) (start finish t : Text) : Prop where
  starts : Instant.ofText? start = some w.start
  finishes : Instant.ofText? finish = some w.finish
  name : w.name.isName = true
  written : ∃ interval unit, (Literal.integer w.interval).IsWritten interval ∧
    (Literal.string w.unit.name.toList).IsWritten unit ∧
    Method.time.IsWritten
      [w.name, '"' :: start ++ ['"'], '"' :: finish ++ ['"'], interval, unit] t

theorem instantAt_eq_ok_iff {args : List Argument} {index : Nat} {i : Instant} :
    instantAt args index = .ok i ↔
      ∃ s, Argument.nth Argument.text? args index = .ok s ∧ Instant.ofText? s = some i := by
  rw [instantAt, Except.bind_eq_ok_iff]
  refine exists_congr fun s => and_congr_right fun _ => ?_
  cases Instant.ofText? s <;> simp

/-- The arguments of a call of a window, each of the type of its position. -/
theorem call_eq_ok_iff {t : Text} {args : List Argument} :
    Method.time.call t format = .ok args ↔ ∃ name start finish interval unit i j n unitName,
      name.isName = true ∧ Instant.ofText? start = some i ∧ Instant.ofText? finish = some j ∧
      (Literal.integer n).IsWritten interval ∧ (Literal.string unitName).IsWritten unit ∧
      Method.time.IsWritten
        [name, '"' :: start ++ ['"'], '"' :: finish ++ ['"'], interval, unit] t ∧
      args = [.dataName name, .time start, .time finish, .integer n, .string unitName] := by
  have hformat : ∀ types ∈ format, .untyped ∉ types := by decide
  rw [Method.call_eq_ok_iff_isWritten (by decide) hformat]
  constructor
  · rintro ⟨ts, hwritten, hlen, hargs⟩
    match ts, hlen with
    | [name, a, b, interval, unit], _ =>
      simp only [format, List.zip_cons_cons, List.zip_nil_left, List.forall₂_cons_left_iff,
        List.forall₂_nil_left_iff, Method.converts_dataName_iff, Method.converts_time_iff,
        Method.converts_integer_iff, Method.converts_string_iff] at hargs
      obtain ⟨_, _, ⟨hname, rfl⟩, ⟨_, _, ⟨start, i, hi, rfl, rfl⟩, ⟨_, _, ⟨finish, j, hj, rfl, rfl⟩,
        ⟨_, _, ⟨n, hn, rfl⟩, ⟨_, _, ⟨unitName, hunit, rfl⟩, rfl, rfl⟩, rfl⟩, rfl⟩, rfl⟩, rfl⟩ :=
        hargs
      exact ⟨name, start, finish, interval, unit, i, j, n, unitName, hname, hi, hj,
        Literal.isWritten_integer_iff.2 hn, Literal.isWritten_string_iff.2 hunit, hwritten, rfl⟩
  · rintro ⟨name, start, finish, interval, unit, i, j, n, unitName, hname, hi, hj, hn, hunit,
      hwritten, rfl⟩
    refine ⟨_, hwritten, rfl, ?_⟩
    exact .cons (Method.converts_dataName_iff.2 ⟨hname, rfl⟩) <|
      .cons (Method.converts_time_iff.2 ⟨start, i, hi, rfl, rfl⟩) <|
      .cons (Method.converts_time_iff.2 ⟨finish, j, hj, rfl, rfl⟩) <|
      .cons (Method.converts_integer_iff.2 ⟨n, Literal.isWritten_integer_iff.1 hn, rfl⟩) <|
      .cons (Method.converts_string_iff.2 ⟨unitName, Literal.isWritten_string_iff.1 hunit, rfl⟩)
        .nil

/-- A window is read from a call in which the start does not come after the end. -/
theorem ofText_eq_ok_iff {t : Text} {w : TimeWindow} :
    ofText t = .ok w ↔ w.start.isAfter w.finish = false ∧ 0 < w.interval.toInt ∧
      ∃ start finish, w.IsWritten start finish t := by
  simp only [ofText, Except.bind_eq_ok_iff, call_eq_ok_iff, instantAt_eq_ok_iff]
  constructor
  · rintro ⟨_, ⟨name, start, finish, interval, unit, i, j, n, unitName, hname, hi, hj, hn, hunit,
      hwritten, rfl⟩, i', ⟨_, hstart, hi'⟩, j', ⟨_, hfinish, hj'⟩, _, hinterval, _, hunitName, h⟩
    cases hstart
    cases hfinish
    cases hinterval
    cases hunitName
    split at h
    · cases h
    · next u hu =>
      split at h
      · cases h
      · next hafter =>
        split at h
        · cases h
        · next hpositive =>
          cases h
          obtain rfl := TimeUnit.ofName?_eq_some_iff.1 hu
          exact ⟨by simpa using hafter, Int.not_le.1 hpositive, start, finish, hi', hj', hname,
            interval, unit, hn, hunit, hwritten⟩
  · rintro ⟨hafter, hpositive, start, finish, hstart, hfinish, hname, interval, unit, hn, hunit,
      hwritten⟩
    refine ⟨_, ⟨w.name, start, finish, interval, unit, _, _, w.interval, _, hname, hstart, hfinish,
      hn, hunit, hwritten, rfl⟩, w.start, ⟨start, rfl, hstart⟩, w.finish, ⟨finish, rfl, hfinish⟩,
      w.interval, rfl, w.unit.name.toList, rfl, ?_⟩
    rw [TimeUnit.ofName?_eq_some_iff.2 rfl]
    simp only [hafter, Bool.false_eq_true, if_false]
    rw [if_neg (Int.not_le.2 hpositive)]
    rfl

theorem IsWritten.field?_toJson {w : TimeWindow} {start finish t : Text}
    (h : w.IsWritten start finish t) : w.toJson.field? "start".toList = some (.string start) ∧
      w.toJson.field? "end".toList = some (.string finish) := by
  rw [← Instant.text_of_isWritten (Instant.ofText?_eq_some_iff.1 h.starts).2,
    ← Instant.text_of_isWritten (Instant.ofText?_eq_some_iff.1 h.finishes).2]
  simp [toJson, Json.ofFields, Json.field?, List.lookup_cons]

/-- Time windows keep their literals, and have them in the order of time. A text is read as an
instant just if it is `YYYYMMDDTHHMMSS` with the fields of a real day and time. Of instants
that were read the one with the smaller text comes first, and before it less time has gone
by. A window is read just if the two literals in its call are of this kind and the second is
not smaller as a text, and these very literals stand in the code. -/
theorem literals_kept_in_order :
    (∀ t i, Instant.ofText? t = some i ↔ i.IsReal ∧ i.IsWritten t) ∧
    (∀ t u i j, Instant.ofText? t = some i → Instant.ofText? u = some j →
      (i = j ↔ t = u) ∧ (i.isAfter j = true ↔ u < t) ∧
        (i.isAfter j = true ↔ j.place < i.place)) ∧
    (∀ t w, ofText t = .ok w ↔ 0 < w.interval.toInt ∧ ∃ start finish,
      w.IsWritten start finish t ∧ ¬finish < start) ∧
    (∀ (w : TimeWindow) start finish t, w.IsWritten start finish t →
      w.toJson.field? "start".toList = some (.string start) ∧
        w.toJson.field? "end".toList = some (.string finish)) := by
  refine ⟨fun t i => Instant.ofText?_eq_some_iff, fun t u i j hi hj => ?_, fun t w => ?_,
    fun w start finish t h => h.field?_toJson⟩
  · exact ⟨Instant.eq_iff_of_ofText? hi hj, Instant.isAfter_iff_lt hi hj,
      Instant.isAfter_iff_place_lt hi hj⟩
  · have horder {start finish : Text} (h : w.IsWritten start finish t) :
        w.start.isAfter w.finish = false ↔ ¬finish < start := by
      rw [← Instant.isAfter_iff_lt h.starts h.finishes, Bool.not_eq_true]
    rw [ofText_eq_ok_iff]
    constructor
    · rintro ⟨hafter, hpositive, start, finish, h⟩
      exact ⟨hpositive, start, finish, h, (horder h).1 hafter⟩
    · rintro ⟨hpositive, start, finish, h, hnot⟩
      exact ⟨(horder h).2 hnot, hpositive, start, finish, h⟩

/-- A window from a leap second to the second behind it. -/
def leap : TimeWindow where
  name := "t".toList
  start := ⟨2016, 12, 31, 23, 59, 60⟩
  finish := ⟨2017, 1, 1, 0, 0, 0⟩
  interval := 1
  unit := .hour

def leapArguments : List Text :=
  ["t".toList, "\"20161231T235960\"".toList, "\"20170101T000000\"".toList, "1".toList,
    "\"hour\"".toList]

theorem literals_kept_in_order_leap :
    leap.finish.isAfter leap.start = true ∧ leap.start.place < leap.finish.place ∧
      ofText (Method.time.callText leapArguments) = .ok leap ∧
      leap.toJson.field? "start".toList = some (.string "20161231T235960".toList) := by
  obtain ⟨-, horder, hread, hjson⟩ := literals_kept_in_order
  have hwritten : leap.IsWritten "20161231T235960".toList "20170101T000000".toList
      (Method.time.callText leapArguments) := by
    refine ⟨by decide, by decide, by decide, "1".toList, "\"hour\"".toList, ?_, ?_,
      Method.time.isWritten_callText leapArguments⟩
    · exact Literal.ofText_eq_ok_iff_isWritten.1 (by decide)
    · exact Literal.ofText_eq_ok_iff_isWritten.1 (by decide)
  obtain ⟨-, htext, hplace⟩ := horder _ _ _ _ hwritten.finishes hwritten.starts
  have hafter : leap.finish.isAfter leap.start = true := htext.2 (by decide)
  exact ⟨hafter, hplace.1 hafter,
    (hread _ _).2 ⟨by decide, _, _, hwritten, by decide⟩, (hjson _ _ _ _ hwritten).1⟩

end TimeWindow

end Overlay
