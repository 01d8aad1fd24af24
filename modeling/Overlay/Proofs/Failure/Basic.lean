import Overlay.Proofs.Text.Comment
import Overlay.Proofs.Text.Stray

/-!
Faults that a text can bring about. Some faults stand for an operation that was applied
outside of its domain; they are internal, and nothing that is written in a description
should lead to them. Others are defects of the quotes and brackets of a text; these are
found when a text is cut, so they are not found in a balanced text.
-/

namespace Overlay

namespace Fault

/-- The faults of an operation that was applied outside of its domain. -/
def isInternal : Fault → Bool
  | timeLiteral _ | malformedCondition _ | missingArgument _ | unexpectedArgument _
  | outsideBloom _ => true
  | _ => false

def isOpening : Fault → Bool
  | unmatchedOpening _ => true
  | _ => false

/-- The defects of the quotes and brackets of a text. -/
def isLexical : Fault → Bool
  | unterminatedQuote | escapedQuoteOutsideString | unmatchedClosing _ | unmatchedOpening _ => true
  | _ => false

/-- Whether a fault is neither internal nor an opening bracket without its closing one. -/
structure IsRegular (e : Fault) : Prop where
  notInternal : e.isInternal = false
  notOpening : e.isOpening = false

/-- Whether a fault can be one of a balanced text. -/
structure IsSemantic (e : Fault) : Prop where
  notInternal : e.isInternal = false
  notLexical : e.isLexical = false

theorem IsSemantic.isRegular {e : Fault} (h : e.IsSemantic) : e.IsRegular where
  notInternal := h.notInternal
  notOpening := by
    have hlexical := h.notLexical
    cases e <;> first | rfl | cases hlexical

end Fault

/-- Whether all failures of a computation are regular faults. -/
abbrev Regular {α : Type} (x : Except Fault α) : Prop := FailsOnly Fault.IsRegular x

/-- Whether all failures of a computation are faults that a balanced text can have. -/
abbrev Semantic {α : Type} (x : Except Fault α) : Prop := FailsOnly Fault.IsSemantic x

namespace Text

def IsBalanced (t : Text) : Prop := ∃ as, Balanced t as

theorem regular_quotes (t : Text) : Regular t.quotes := by
  intro e he
  rcases quoteFault?_cases (quotes_eq_error_iff.1 he) with rfl | rfl
  · exact ⟨rfl, rfl⟩
  · exact ⟨rfl, rfl⟩

theorem regular_stripComment (line : Text) : Regular line.stripComment :=
  (regular_quotes _).bind fun _ _ => .ok _

/-- A scan for brackets stops at a closing one only. -/
theorem regular_structureFrom (expected : List Char) (begun : Text) (ts : List Token) :
    Regular (structureFrom expected begun ts) := by
  fun_induction structureFrom expected begun ts
  case case1 => exact .ok _
  case case2 ih | case4 ih | case7 ih => exact ih.map _
  case case3 ih | case5 ih | case8 ih | case10 ih => exact ih
  case case6 | case9 => exact .error ⟨rfl, rfl⟩

theorem regular_bracketStructure (t : Text) : Regular t.bracketStructure :=
  (regular_quotes t).bind fun _ _ => regular_structureFrom [] [] _

theorem regular_bracketDepth (t : Text) : Regular t.bracketDepth :=
  (regular_bracketStructure t).bind fun _ _ => .ok _

/-- A failure to cut a text at its brackets is never internal. -/
theorem notInternal_brackets (t : Text) : FailsOnly (·.isInternal = false) t.brackets := by
  refine ((regular_bracketStructure t).mono fun e he => he.notInternal).bind fun s _ => ?_
  split
  · exact .ok _
  · exact .error rfl

theorem notInternal_split (t delimiter : Text) (limit : Option Nat) :
    FailsOnly (·.isInternal = false) (t.split delimiter limit) :=
  (notInternal_brackets t).bind fun _ _ => .ok _

end Text

theorem Text.isBalanced_iff {t : Text} :
    t.IsBalanced ↔ ∃ ts, Quoted t ts ∧ expectedAfter [] ts = some [] := by
  rw [← exists_bracketStructure_iff]
  constructor
  · rintro ⟨as, has⟩
    obtain ⟨r, hr, h⟩ := Except.bind_eq_ok_iff.1 (brackets_eq_ok_iff.2 ⟨as, has, rfl⟩)
    refine ⟨r, hr, ?_⟩
    split at h
    · assumption
    · cases h
  · intro h
    obtain ⟨ts, hts, hclosed⟩ := exists_bracketStructure_iff.1 h
    exact exists_balanced_of_bracketDepth (bracketDepth_eq_ok_iff.2 ⟨ts, [], hts, hclosed, rfl⟩)

namespace Text.IsBalanced

theorem exists_brackets {t : Text} (h : t.IsBalanced) : ∃ ss, t.brackets = .ok ss := by
  obtain ⟨as, has⟩ := h
  exact ⟨_, brackets_eq_ok_iff.2 ⟨as, has, rfl⟩⟩

theorem trim {t : Text} (h : t.IsBalanced) : t.trim.IsBalanced := by
  obtain ⟨as, has⟩ := h
  obtain ⟨bs, -, hbs⟩ := has.trim
  exact ⟨bs, hbs⟩

theorem semantic_split {t : Text} (h : t.IsBalanced) (delimiter : Text) (limit : Option Nat) :
    Semantic (t.split delimiter limit) := by
  obtain ⟨ss, hss⟩ := h.exists_brackets
  rw [Text.split, hss]
  exact .ok _

theorem of_split {t delimiter : Text} {limit : Option Nat} {parts : List Text}
    (h : t.split delimiter limit = .ok parts) : t.IsBalanced := by
  obtain ⟨ss, hss, -⟩ := Except.bind_eq_ok_iff.1 h
  obtain ⟨as, has, -⟩ := brackets_eq_ok_iff.1 hss
  exact ⟨as, has⟩

/-- The parts of a text that was cut are balanced. -/
theorem of_mem_split {t delimiter : Text} (hne : delimiter ≠ []) {limit : Option Nat}
    {parts : List Text} (h : t.split delimiter limit = .ok parts) {p : Text} (hp : p ∈ parts) :
    p.IsBalanced := by
  obtain ⟨as, has, rfl⟩ := (split_eq_ok_iff hne).1 h
  obtain ⟨x, hx, rfl⟩ := List.mem_map.1 hp
  have hpiece : x <:+: as := by
    have hjoin := intercalate_cutUnits hne (limit.map (· - 1)) [] 0 as
    rw [List.reverse_nil, List.nil_append, List.drop_zero] at hjoin
    exact hjoin ▸ infix_intercalate hx
  exact trim ⟨x, has.piece hpiece⟩

/-- What stands in the round brackets around a whole text. -/
theorem of_stripParens {t inner : Text} (h : t.stripParens = .ok (some inner)) :
    inner.IsBalanced := by
  obtain ⟨as, has, heq⟩ := stripParens_eq_ok_iff.1 h
  obtain ⟨body, hbody, rfl⟩ := Option.map_eq_some_iff.1 heq.symm
  exact trim ((enclosed?_eq_some_iff has).1 hbody).2

theorem semantic_stripParens {t : Text} (h : t.IsBalanced) : Semantic t.stripParens := by
  obtain ⟨ss, hss⟩ := h.trim.exists_brackets
  rw [Text.stripParens, hss]
  exact .ok _

/-- What stands in square brackets may close the first of them, but nothing else is out
of place in it. -/
theorem eq_of_split_square {inner delimiter : Text} {limit : Option Nat}
    (h : IsBalanced ('[' :: inner ++ [']'])) {e : Fault}
    (he : inner.split delimiter limit = .error e) :
    e = .unmatchedClosing ']' ∧ ¬ inner.IsBalanced := by
  have hbrackets : inner.brackets = .error e := by
    rcases Except.bind_eq_error_iff.1 he with he | ⟨_, -, he⟩
    · exact he
    · cases he
  refine ⟨?_, fun hinner => ?_⟩
  · obtain ⟨us, hus, hclosed⟩ := isBalanced_iff.1 h
    obtain ⟨vs, -, hvs⟩ := Quoted.of_cons (by decide) hus
    obtain ⟨ts, hts⟩ := Quoted.of_concat (by decide) hvs
    have hwhole : Quoted ('[' :: inner ++ [']']) (.char '[' :: ts ++ [.char ']']) := by
      refine .char (by decide) nofun (hts.append_of_head ?_ (by decide))
      exact .char (by decide) nofun .nil
    rw [hus.unique hwhole] at hclosed
    -- The brackets around the text close all that is open, and they are only one pair.
    have hafter : expectedAfter [']'] (ts ++ [.char ']']) = some [] := hclosed
    rw [expectedAfter_append, Option.bind_eq_some_iff] at hafter
    obtain ⟨es, hes, hlast⟩ := hafter
    rcases (brackets_eq_error_iff hts).1 hbrackets with ⟨c, hc, rfl⟩ | ⟨o, fs, hfs, -⟩
    · have hnone : strayCloser? ([] ++ [']']) ts = none := strayCloser?_eq_none_iff.2 ⟨es, hes⟩
      rw [Option.some.inj (strayCloser?_below hc hnone)]
    · have hbelow := expectedAfter_below hfs [']']
      rw [List.nil_append, hes] at hbelow
      cases hbelow
      simp [expectedAfter, closer?, isCloser] at hlast
  · obtain ⟨ss, hss⟩ := hinner.exists_brackets
    rw [hbrackets] at hss
    cases hss

theorem of_plain_append {u t : Text} (hu : ∀ c ∈ u, isPlain c = true)
    (h : (u ++ t).IsBalanced) : t.IsBalanced := by
  induction u with
  | nil => exact h
  | cons c u ih =>
      obtain ⟨as, has⟩ := h
      obtain ⟨bs, -, hbs⟩ := has.of_cons_plain (hu c List.mem_cons_self)
      exact ih (fun d hd => hu d (List.mem_cons_of_mem c hd)) ⟨bs, hbs⟩

end Text.IsBalanced

namespace Text

/-! Inside stretches. Each of them has a first and a last character to be taken off, its
quotes or its brackets. -/

/-- Whether a text stands between two quotes or two brackets that match. -/
def IsEnclosed (t : Text) : Prop :=
  ∃ first last, t = first :: t.inner ++ [last] ∧
    (first = '"' ∧ last = '"' ∨ closer? first = some last)

theorem inner_enclosed (first last : Char) (body : Text) :
    inner (first :: body ++ [last]) = body := by
  simp [inner]

theorem IsLiteral.isEnclosed {l : Text} (h : IsLiteral l) : l.IsEnclosed := by
  obtain ⟨body, -, rfl⟩ := h
  exact ⟨'"', '"', by rw [inner_enclosed], .inl ⟨rfl, rfl⟩⟩

theorem mem_tokens_of_inside {ss : List Stretch} {s : Text} (h : .inside s ∈ ss) :
    .literal s ∈ tokens ss :=
  List.mem_flatMap.2 ⟨.inside s, h, List.mem_singleton.2 rfl⟩

theorem isEnclosed_of_quotes {t s : Text} {ss : List Stretch} (h : t.quotes = .ok ss)
    (hs : .inside s ∈ ss) : s.IsEnclosed := by
  obtain ⟨ts, hts, rfl⟩ := quotes_eq_ok_iff.1 h
  have hmem := mem_tokens_of_inside hs
  rw [tokens_stretchesFrom] at hmem
  change Token.literal s ∈ ts at hmem
  clear h hs
  induction hts with
  | nil => cases hmem
  | char _ _ _ ih => exact ih (by simpa using hmem)
  | literal hl _ ih =>
      rcases List.mem_cons.1 hmem with heq | hmem
      · cases heq
        exact hl.isEnclosed
      · exact ih hmem

theorem isEnclosed_of_brackets {t s : Text} {ss : List Stretch} (h : t.brackets = .ok ss)
    (hs : .inside s ∈ ss) : s.IsEnclosed := by
  obtain ⟨as, has, rfl⟩ := brackets_eq_ok_iff.1 h
  have hmem := mem_tokens_of_inside hs
  rw [tokens_stretchesFrom] at hmem
  change Token.literal s ∈ as at hmem
  clear h hs
  induction has with
  | nil => cases hmem
  | char _ _ _ _ _ ih => exact ih (by simpa using hmem)
  | literal hl _ ih =>
      rcases List.mem_cons.1 hmem with heq | hmem
      · cases heq
        exact hl.isEnclosed
      · exact ih hmem
  | @group o c body _ _ _ ho _ _ _ ih =>
      rcases List.mem_cons.1 hmem with heq | hmem
      · cases heq
        exact ⟨o, c, by rw [inner_enclosed], .inr ho⟩
      · exact ih hmem

end Text

end Overlay
