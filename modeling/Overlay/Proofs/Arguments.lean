import Overlay.Proofs.Failure.Call
import Overlay.Proofs.Rule.Call

/-!
The arguments of a call, recovered. A call is the name of its method and one group of
round brackets that reaches to the end; what stands in the group is cut at the commas
that no literal and no bracket inside of it hides, exactly as if it stood alone. So the
arguments are determined by the text, each list of arguments that hide their commas is
found again, and nothing but the form of the call can be wrong.
-/

namespace Overlay

open Text

namespace Text

/-- Whether some texts are what stands between the outside occurrences of a character. -/
structure IsPieces (d : Char) (t : Text) (pieces : List Text) : Prop where
  nonempty : pieces ≠ []
  joined : t = [d].intercalate pieces
  hides : ∀ piece ∈ pieces, Hides d piece

theorem char_mem_tokens_iff {d : Char} {ss : List Stretch} :
    Token.char d ∈ tokens ss ↔ ∃ u ∈ Stretch.outsides ss, d ∈ u := by
  simp only [tokens, Stretch.outsides, List.mem_flatMap, List.mem_filterMap]
  constructor
  · rintro ⟨s, hs, hmem⟩
    cases s with
    | inside u => simp at hmem
    | outside u => exact ⟨u, ⟨.outside u, hs, rfl⟩, by simpa using hmem⟩
  · rintro ⟨u, ⟨s, hs, hu⟩, hmem⟩
    cases s with
    | inside u => cases hu
    | outside u =>
        cases hu
        exact ⟨.outside u, hs, by simpa using hmem⟩

/-- A text hides a character that is not in an outside stretch of it. -/
theorem hides_iff_brackets {d : Char} {t : Text} :
    Hides d t ↔ ∃ ss, t.brackets = .ok ss ∧ ∀ u ∈ Stretch.outsides ss, d ∉ u := by
  constructor
  · rintro ⟨as, has, hnot⟩
    refine ⟨_, brackets_eq_ok_iff.2 ⟨as, has, rfl⟩, fun u hu hd => hnot ?_⟩
    have hmem := char_mem_tokens_iff.2 ⟨u, hu, hd⟩
    rwa [tokens_stretchesFrom] at hmem
  · rintro ⟨ss, hss, hout⟩
    obtain ⟨as, has, rfl⟩ := brackets_eq_ok_iff.1 hss
    refine ⟨as, has, fun hmem => ?_⟩
    obtain ⟨u, hu, hd⟩ := char_mem_tokens_iff.1 (show Token.char d ∈ tokens (stretchesFrom [] as) by
      rwa [tokens_stretchesFrom])
    exact hout u hu hd

theorem IsPieces.split {d : Char} (hplain : isPlain d = true) {t : Text} {pieces : List Text}
    (h : IsPieces d t pieces) : t.split [d] none = .ok (pieces.map trim) := by
  rw [h.joined]
  exact split_intercalate (by simpa using hplain) h.nonempty h.hides

/-- Cutting at every outside occurrence of a character gives the pieces, trimmed. -/
theorem split_eq_ok_iff_isPieces {d : Char} (hplain : isPlain d = true) {t : Text}
    {parts : List Text} :
    t.split [d] none = .ok parts ↔ ∃ pieces, IsPieces d t pieces ∧ parts = pieces.map trim := by
  constructor
  · intro h
    obtain ⟨pieces, hjoin, rfl, hne, hhides⟩ := exists_intercalate_of_split_hides h
    exact ⟨pieces, ⟨hne, hjoin, hhides⟩, rfl⟩
  · rintro ⟨pieces, h, rfl⟩
    exact h.split hplain

theorem IsPieces.isBalanced {d : Char} (hplain : isPlain d = true) {t : Text}
    {pieces : List Text} (h : IsPieces d t pieces) : t.IsBalanced :=
  .of_split (h.split hplain)

/-- Pieces with a blank after each delimiter. -/
theorem exists_intercalate_blank (d b : Char) (hb : isBlank b = true) (ts : List Text) :
    ∃ raws, [d, b].intercalate ts = [d].intercalate raws ∧ List.Forall₂ IsPadded ts raws := by
  have hself (t : Text) : IsPadded t t := ⟨[], [], allBlank_nil, allBlank_nil, by simp⟩
  have hafter (t : Text) : IsPadded t (b :: t) :=
    ⟨[b], [], by simpa [allBlank] using hb, allBlank_nil, by simp⟩
  cases ts with
  | nil => exact ⟨[], rfl, .nil⟩
  | cons t ts =>
      refine ⟨t :: ts.map (b :: ·), ?_, .cons (hself t) ?_⟩
      · induction ts generalizing t with
        | nil => rfl
        | cons u ts ih =>
            rw [List.intercalate_cons_cons, ih u, List.map_cons, List.intercalate_cons_cons]
            simp
      · rw [List.forall₂_map_right_iff, List.forall₂_same]
        exact fun u _ => hafter u

end Text

namespace Method

/-- Whether a text is a call of a method with this in its brackets: the name, and just
after it one group of round brackets to the end. -/
def IsCall (m : Method) (inner t : Text) : Prop :=
  t = m.label ++ ('(' :: inner ++ [')']) ∧ inner.IsBalanced

/-- Whether these are the arguments between the brackets of a call: none if there are
only blanks, and otherwise what stands between the commas, trimmed. -/
def HasArguments (inner : Text) (args : List Text) : Prop :=
  inner.allBlank = true ∧ args = [] ∨
    inner.allBlank = false ∧ ∃ pieces, IsPieces ',' inner pieces ∧ args = pieces.map trim

/-- The text of a call with a comma and a space between its arguments. -/
def callText (m : Method) (args : List Text) : Text :=
  m.label ++ ('(' :: [',', ' '].intercalate args ++ [')'])

/-- What is in an argument is in the text of the call. -/
theorem IsWritten.mem {m : Method} {args : List Text} {t arg : Text} (h : m.IsWritten args t)
    (harg : arg ∈ args) {c : Char} (hc : c ∈ arg) : c ∈ t := by
  obtain ⟨raws, hraws, rfl⟩ := h
  obtain ⟨_, hraw, b, b', -, -, rfl⟩ := forall₂_exists_of_mem_left hraws harg
  have hjoin : c ∈ [','].intercalate raws :=
    (infix_intercalate hraw).subset (List.mem_append_left b' (List.mem_append_right b hc))
  simp [hjoin]

theorem group?_eq_some_iff {m : Method} {t inner : Text} :
    m.group? t = some inner ↔ m.IsCall inner t := by
  constructor
  · exact eq_of_group?
  · rintro ⟨rfl, bs, hbs⟩
    exact m.group?_of_balanced hbs

theorem isWritten_callText (m : Method) (args : List Text) :
    m.IsWritten args (m.callText args) := by
  obtain ⟨raws, hjoin, hraws⟩ := exists_intercalate_blank ',' ' ' (by decide) args
  exact ⟨raws, hraws, by rw [callText, hjoin]⟩

theorem arguments_of_isCall {m : Method} {t inner : Text} {args : List Text}
    (h : m.IsCall inner t) : m.arguments t = .ok args ↔ HasArguments inner args := by
  rw [arguments, group?_eq_some_iff.2 h]
  cases hblank : inner.allBlank with
  | true => simp [HasArguments, hblank, eq_comm]
  | false =>
      have hplain : isPlain ',' = true := by decide
      simp [HasArguments, hblank, split_eq_ok_iff_isPieces hplain]

theorem arguments_of_not_isCall {m : Method} {t : Text} (h : ∀ inner, ¬m.IsCall inner t) :
    m.arguments t = .error (.methodFormat m) := by
  have hnone : m.group? t = none :=
    Option.eq_none_iff_forall_ne_some.2 fun inner hinner => h inner (group?_eq_some_iff.1 hinner)
  rw [arguments, hnone]

/-- A list of pieces that is more than one empty text does not look like no pieces. -/
theorem not_allBlank_intercalate {args raws : List Text} (hraws : List.Forall₂ IsPadded args raws)
    (htrim : ∀ a ∈ args, a.trim = a) (hne : args ≠ []) (hempty : args ≠ [[]]) :
    allBlank ([','].intercalate raws) = false := by
  cases hraws with
  | nil => exact absurd rfl hne
  | @cons arg raw args raws harg hrest =>
      rw [Bool.eq_false_iff]
      intro hblank
      cases hrest with
      | nil =>
          -- A single argument that is trimmed and blank is empty.
          have hraw : raw.trim = [] := by simpa using trim_append_blank hblank allBlank_nil []
          rw [harg.trim_eq, htrim arg List.mem_cons_self] at hraw
          exact hempty (by rw [hraw])
      | cons _ _ =>
          -- A comma between two arguments is not blank.
          have hcomma := allBlank_iff.1 hblank ',' (by simp [List.intercalate_cons_cons])
          cases hcomma

theorem arguments_of_isWritten {m : Method} {args : List Text} {t : Text}
    (hwritten : m.IsWritten args t) (hne : args ≠ []) (hempty : args ≠ [[]])
    (hargs : ∀ a ∈ args, a.trim = a ∧ Hides ',' a) : m.arguments t = .ok args := by
  obtain ⟨raws, hraws, rfl⟩ := hwritten
  have htrim : ∀ a ∈ args, a.trim = a := fun a ha => (hargs a ha).1
  have hpieces : IsPieces ',' ([','].intercalate raws) raws :=
    ⟨ne_nil_of_forall₂ hraws hne, rfl,
      Hides.forall_padded (by decide) hraws fun a ha => (hargs a ha).2⟩
  have hbalanced := hpieces.isBalanced (by decide)
  refine (arguments_of_isCall ⟨rfl, hbalanced⟩).2 (.inr ⟨?_, raws, hpieces, ?_⟩)
  · exact not_allBlank_intercalate hraws htrim hne hempty
  · rw [map_trim_of_isPadded hraws, List.map_congr_left htrim, List.map_id']

/-- The arguments of a call are read exactly. A text has arguments just if it is the name
of the method and one bracket group; they are what stands between the outside commas of
the group, and a list of trimmed arguments without outside commas, written in any way, is
read as it is, unless it is one empty text. All other texts have the wrong form. -/
theorem arguments_exact (m : Method) :
    (∀ t args, m.arguments t = .ok args ↔ ∃ inner, m.IsCall inner t ∧ HasArguments inner args) ∧
    (∀ args : List Text, args ≠ [] → args ≠ [[]] →
      (∀ a ∈ args, a.trim = a ∧
        ∃ ss, a.brackets = .ok ss ∧ ∀ u ∈ Stretch.outsides ss, ',' ∉ u) →
      m.arguments (m.callText args) = .ok args ∧
        ∀ t, m.IsWritten args t → m.arguments t = .ok args) ∧
    (∀ t, (∀ inner, ¬m.IsCall inner t) → m.arguments t = .error (.methodFormat m)) := by
  refine ⟨fun t args => ⟨fun h => ?_, ?_⟩, fun args hne hempty hargs => ?_,
    fun t => arguments_of_not_isCall⟩
  · obtain ⟨inner, hinner⟩ := exists_group_of_arguments h
    have hcall := group?_eq_some_iff.1 hinner
    exact ⟨inner, hcall, (arguments_of_isCall hcall).1 h⟩
  · rintro ⟨inner, hcall, hargs⟩
    exact (arguments_of_isCall hcall).2 hargs
  · have hhides : ∀ a ∈ args, a.trim = a ∧ Hides ',' a := fun a ha =>
      ⟨(hargs a ha).1, hides_iff_brackets.2 (hargs a ha).2⟩
    exact ⟨arguments_of_isWritten (m.isWritten_callText args) hne hempty hhides,
      fun t ht => arguments_of_isWritten ht hne hempty hhides⟩

theorem arguments_exact_nested :
    discovery.arguments "discovery(range = [1, 2], join(a, [b, c]), tag = \"a, b\")".toList =
      .ok ["range = [1, 2]".toList, "join(a, [b, c])".toList, "tag = \"a, b\"".toList] := by
  have hread := (arguments_exact discovery).2.1
    ["range = [1, 2]".toList, "join(a, [b, c])".toList, "tag = \"a, b\"".toList]
    (List.cons_ne_nil _ _) (by decide) (by
      refine List.forall_mem_cons.2 ⟨⟨by decide, _, rfl, by decide⟩, ?_⟩
      refine List.forall_mem_cons.2 ⟨⟨by decide, _, rfl, by decide⟩, ?_⟩
      exact List.forall_mem_singleton.2 ⟨by decide, _, rfl, by decide⟩)
  exact hread.1

end Method

/-! Calls of fixed format. -/

theorem ArgumentType.isArgument_of_convert? {type : ArgumentType} {t : Text} {a : Argument}
    (htype : type ≠ .untyped) (h : type.convert? t = some a) : IsArgument t := by
  cases type with
  | dataName => exact .of_isName (convert?_dataName_eq_some_iff.1 h).1
  | integer =>
      obtain ⟨n, hn, -⟩ := Option.map_eq_some_iff.1 h
      exact .of_numeric (Literal.numeric_of_integer? hn)
  | float =>
      obtain ⟨x, hx, -⟩ := Option.map_eq_some_iff.1 h
      exact .of_numeric (Literal.numeric_of_float? hx)
  | string =>
      obtain ⟨s, hs, -⟩ := Option.map_eq_some_iff.1 h
      exact .of_isLiteral (isLiteral_of_unquote? hs)
  | time =>
      obtain ⟨s, hs, -⟩ := Option.bind_eq_some_iff.1 h
      exact .of_isLiteral (isLiteral_of_unquote? hs)
  | untyped => exact absurd rfl htype

theorem Method.converts_dataName_iff {t : Text} {a : Argument} :
    Converts (t, [.dataName]) a ↔ t.isName = true ∧ a = .dataName t := by
  rw [Converts, ArgumentType.convertFirst?_singleton,
    ArgumentType.convert?_dataName_eq_some_iff]

/-- Of names that stand one after the other each is the argument. -/
theorem Method.forall₂_converts_names_iff {names : List Text} {args : List Argument} :
    List.Forall₂ Converts (names.zip (List.replicate names.length [.dataName])) args ↔
      (∀ name ∈ names, name.isName = true) ∧ args = names.map .dataName := by
  induction names generalizing args with
  | nil => simp
  | cons name names ih =>
      rw [List.length_cons, List.replicate_succ, List.zip_cons_cons, List.forall₂_cons_left_iff]
      simp only [ih, converts_dataName_iff, List.forall_mem_cons, List.map_cons]
      constructor
      · rintro ⟨_, _, ⟨hname, rfl⟩, ⟨hnames, rfl⟩, rfl⟩
        exact ⟨⟨hname, hnames⟩, rfl⟩
      · rintro ⟨⟨hname, hnames⟩, rfl⟩
        exact ⟨_, _, ⟨hname, rfl⟩, ⟨hnames, rfl⟩, rfl⟩

theorem Argument.mapM_nth_names (before : List Argument) (names : List Text) :
    (List.range' before.length names.length).mapM (nth text? (before ++ names.map .dataName)) =
      .ok names := by
  refine Except.mapM_eq_ok_iff.2 (List.forall₂_iff_get.2 ⟨by simp, fun i hi hi' => ?_⟩)
  refine nth_eq_ok_iff.2 ⟨.dataName (names.get ⟨i, hi'⟩), ?_, rfl⟩
  rw [List.get_eq_getElem, List.getElem_range', Nat.one_mul,
    List.getElem?_append_right (Nat.le_add_right _ _)]
  simp

theorem Method.converts_string_iff {t : Text} {a : Argument} :
    Converts (t, [.string]) a ↔ ∃ s, t.unquote? = some s ∧ a = .string s := by
  rw [Converts, ArgumentType.convertFirst?_singleton]
  simp only [ArgumentType.convert?, Option.map_eq_some_iff, eq_comm (a := a)]

theorem Method.converts_integer_iff {t : Text} {a : Argument} :
    Converts (t, [.integer]) a ↔ ∃ n, t.integer? = some n ∧ a = .integer n := by
  rw [Converts, ArgumentType.convertFirst?_singleton]
  simp only [ArgumentType.convert?, Option.map_eq_some_iff, eq_comm (a := a)]

/-- Reading arguments of the types other than the untyped one is the inverse of writing
them into a call. -/
theorem Method.call_eq_ok_iff_isWritten {m : Method} {t : Text}
    {format : List (List ArgumentType)} {args : List Argument} (hne : format ≠ [])
    (htyped : ∀ types ∈ format, .untyped ∉ types) :
    m.call t format = .ok args ↔ ∃ ts, m.IsWritten ts t ∧ ts.length = format.length ∧
      List.Forall₂ Converts (ts.zip format) args := by
  rw [call_eq_ok_iff]
  have hnonempty {ts : List Text} (hlen : ts.length = format.length) : ts ≠ [] := by
    rintro rfl
    exact hne (List.length_eq_zero_iff.1 hlen.symm)
  constructor
  · rintro ⟨ts, hts, hlen, hargs⟩
    exact ⟨ts, isWritten_of_arguments hts (hnonempty hlen), hlen, hargs⟩
  · rintro ⟨ts, hwritten, hlen, hargs⟩
    refine ⟨ts, hwritten.arguments (hnonempty hlen) fun s hs => ?_, hlen, hargs⟩
    rw [← List.map_fst_zip (Nat.le_of_eq hlen)] at hs
    obtain ⟨⟨_, types⟩, hp, rfl⟩ := List.mem_map.1 hs
    obtain ⟨a, -, ha⟩ := forall₂_exists_of_mem_left hargs hp
    obtain ⟨type, htype, hconvert⟩ := List.exists_of_findSome?_eq_some ha
    refine ArgumentType.isArgument_of_convert? ?_ hconvert
    rintro rfl
    exact htyped types (List.of_mem_zip hp).2 htype

end Overlay
