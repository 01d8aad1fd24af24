import Overlay.Proofs.Blame.Description

/-!
Defects that are reported. A diagnostic of a quote or a bracket is checked against the
lines that it names, by a scan of these lines alone. What lines say is scanned as it is
read, so the defect is in them, but for one cut that does not look at brackets: in a
list of literals the first and the last bracket are taken off even if they are no pair.
-/

namespace Overlay

open Text

/-- Scans lines for defects: for those of the quotes each line alone, then for those of
the brackets all that the lines hold, joined by spaces. -/
def Text.scanLines (lines : List Text) : Except Fault (List Stretch) := do
  let ts ← lines.mapM stripComment
  brackets ([' '].intercalate (ts.filter fun t => !t.isEmpty))

theorem Text.scanLines_of_content {number : Nat} {lines : List Text} {cs : List (Nat × Text)}
    (h : Content (SourceUnit.numberFrom number lines) cs) :
    scanLines lines = brackets ([' '].intercalate (texts cs)) := by
  have hstrip : ∃ ts, lines.mapM stripComment = .ok ts ∧
      (ts.filter fun t => !t.isEmpty) = texts cs := by
    induction lines generalizing number cs with
    | nil =>
        cases h
        exact ⟨[], rfl, rfl⟩
    | cons line lines ih =>
        simp only [Except.mapM_cons_eq_ok_iff]
        cases h with
        | blank hblank h =>
            obtain ⟨ts, hts, hfilter⟩ := ih h
            exact ⟨[] :: ts, ⟨[], ts, hblank, hts, rfl⟩, by simpa using hfilter⟩
        | @line _ _ t _ cs hline hne h =>
            obtain ⟨ts, hts, hfilter⟩ := ih h
            refine ⟨t :: ts, ⟨t, ts, hline, hts, rfl⟩, ?_⟩
            rw [List.filter_cons_of_pos (by simpa using hne), hfilter]
            rfl
  obtain ⟨ts, hts, hfilter⟩ := hstrip
  rw [scanLines, hts, Except.ok_bind, hfilter]

theorem Text.scanLines_line {line : Text} {cause : Fault} (h : line.stripComment = .error cause) :
    scanLines [line] = .error cause := by
  rw [scanLines, List.mapM_cons, h]
  rfl

/-- A defect of the condition in a header is one of the whole line. -/
theorem EventBlock.brackets_of_readHeader {t : Text} {ts : List Token} (hts : Quoted t ts)
    {cause : Fault} (h : readHeader t = .error cause) (hlexical : cause.isLexical = true) :
    t.brackets = .error cause := by
  unfold readHeader at h
  split at h
  · cases h
    cases hlexical
  · next part hpart =>
    obtain ⟨-, -, -, b, -, hb, rfl⟩ := beforeDo?_eq_some_iff.1 hpart
    rw [List.append_assoc] at hts ⊢
    obtain ⟨l, r, hl, hr, hpartEq, -⟩ := exists_trim part
    have hl := forall_plain_of_allBlank hl
    have hrest : ∀ c ∈ r ++ (b ++ ['d', 'o']), isPlain c = true := by
      intro c hc
      rcases List.mem_append.1 hc with hc | hc
      · exact forall_plain_of_allBlank hr c hc
      · rcases List.mem_append.1 hc with hc | hc
        · exact forall_plain_of_allBlank hb c hc
        · exact (show ∀ c ∈ ['d', 'o'], isPlain c = true by decide) c hc
    have hwhole : part ++ (b ++ ['d', 'o']) = l ++ part.trim ++ (r ++ (b ++ ['d', 'o'])) := by
      conv => lhs; rw [hpartEq]
      simp only [List.append_assoc]
    rw [hwhole] at hts ⊢
    obtain ⟨us, hus⟩ := hts.of_append_plain hrest
    obtain ⟨vs, hvs⟩ := hus.of_plain_append hl
    refine brackets_error_between hl hrest hvs ?_
    cases hsplit : part.trim.split Condition.orSign none with
    | error cause' =>
        rw [Condition.ofText_eq, hsplit] at h
        cases h
        rcases Except.bind_eq_error_iff.1 hsplit with hbrackets | ⟨_, -, hbrackets⟩
        · exact hbrackets
        · cases hbrackets
    | ok parts =>
        -- Where the condition can be cut at all, nothing is wrong with its brackets.
        have hcause := (Condition.semantic_ofText (.of_split hsplit) cause h).notLexical
        rw [hlexical] at hcause
        cases hcause

namespace Diagnostic

variable {t : Text} {d : Diagnostic}

/-- Whether a diagnostic is about a service of a text, with a list of literals whose
first and last brackets are no pair. -/
def IsAtLooseList (t : Text) (d : Diagnostic) : Prop :=
  ∃ i, Item.StandsIn t i ∧ i.HasLooseList ∧ d = i.unit.diagnostic (.unmatchedClosing ']')

theorem ArisesIn.scanLines_eq {lines : List Text}
    (h : d.ArisesIn (SourceUnit.numberFrom 1 lines)) (hlexical : d.cause.isLexical = true) :
    scanLines (d.span.cut lines) = .error d.cause := by
  cases h with
  | quotes hmem hline =>
      rw [(SourceUnit.cut_line hmem).2.2]
      exact scanLines_line hline
  | unknown => cases hlexical
  | @brackets u cs cause hu hcontent hdepth =>
      have hcut : (u.diagnostic cause).span.cut lines = u.lines := hu.cut.2.2
      rw [hcut, scanLines_of_content hcontent]
      rcases Except.bind_eq_error_iff.1 hdepth with hstructure | ⟨_, -, hdepth⟩
      · rw [Text.brackets, hstructure]
        rfl
      · cases hdepth
  | unit _ hcause =>
      have hnot := hcause.notLexical.symm.trans hlexical
      cases hnot

theorem Arises.scanLines_eq_or (h : d.Arises t) (hlexical : d.cause.isLexical = true) :
    scanLines (d.span.cut t.lines) = .error d.cause ∨ d.IsAtLooseList t := by
  cases h with
  | lines h => exact .inl (h.scanLines_eq hlexical)
  | @header i header cause hi hevent hheader hread =>
      left
      have hstands := (Item.header_standsIn hi.run.nonempty hheader).mono hi.run.run
      have hcut : (header.diagnostic cause).span.cut t.lines = header.lines := hstands.cut.2.2
      have hslice : i.unit.slice 0 1 = .ok header := by
        rw [Item.header, hevent] at hheader
        exact hheader
      obtain ⟨cs, hcontent, rfl⟩ := SourceUnit.ofLines_eq_ok_iff.1 hslice
      obtain ⟨ts, hts⟩ := hcontent.exists_quoted_intercalate
      rw [hcut, scanLines_of_content hcontent]
      exact EventBlock.brackets_of_readHeader hts hread hlexical
  | list hi hloose => exact .inr ⟨_, hi, hloose, rfl⟩

/-- The lines of a declaration or a rule have no defect. -/
theorem exists_scanLines_of_leaf {i : Item} (h : i.StandsIn t)
    (hleaf : i.construct.isBlock = false) (cause : Fault) :
    ∃ ss, scanLines ((i.unit.diagnostic cause).span.cut t.lines) = .ok ss := by
  have hcut : (i.unit.diagnostic cause).span.cut t.lines = i.unit.lines := h.run.cut.2.2
  obtain ⟨ss, hss⟩ := (h.isBalanced hleaf).exists_brackets
  obtain ⟨_, cs, hread⟩ := h.exists_isRead
  rw [hread.holds.text] at hss
  exact ⟨ss, by rw [hcut, scanLines_of_content hread.holds.content, hss]⟩

theorem IsAtLooseList.exists_scanLines (h : d.IsAtLooseList t) :
    ∃ ss, scanLines (d.span.cut t.lines) = .ok ss := by
  obtain ⟨i, hi, ⟨hservice, -⟩, rfl⟩ := h
  exact exists_scanLines_of_leaf hi (by rw [hservice]; rfl) _

end Diagnostic

namespace Code

/-- A quote or a bracket that is reported is a defect of the lines that are named, unless
it is the bracket of a list that is no pair with the one before the list. -/
theorem scanLines_eq_error_iff {overlay t : Text} {d : Diagnostic}
    (h : compile overlay t = .error d) (hlexical : d.cause.isLexical = true) :
    scanLines (d.span.cut t.lines) = .error d.cause ↔ ¬ d.IsAtLooseList t := by
  have hread := Except.map_eq_error_iff.1 h
  constructor
  · intro hscan hloose
    obtain ⟨ss, hss⟩ := hloose.exists_scanLines
    rw [hscan] at hss
    cases hss
  · intro hpair
    by_cases hne : t.lines = []
    · rw [Description.ofText_of_no_lines hne] at hread
      cases hread
      cases hlexical
    · exact ((Description.fails_ofText hne d hread).scanLines_eq_or hlexical).resolve_right hpair

/-- A list whose brackets are closed in the wrong order, on two lines. -/
def crossedList : Text :=
  ['\n'].intercalate (["state do", "  @a: discovery(x=[1,", "    2)] # two values", "end",
    "bloom do", "end"].map String.toList)

/-- What is wrong with `crossedList`. -/
def crossing : Diagnostic :=
  { span := ⟨2, 3, by decide⟩
    text := "  @a: discovery(x=[1,\n    2)] # two values".toList
    cause := .unmatchedClosing ')' }

/-- The lines that are named for `crossedList` have the defect, so it is not about a list
whose brackets are no pair. -/
theorem scanLines_crossedList : compile [] crossedList = .error crossing ∧
    crossing.cause.isLexical = true ∧
    scanLines (crossing.span.cut crossedList.lines) = .error crossing.cause ∧
    ¬ crossing.IsAtLooseList crossedList := by
  have hread : Description.ofText crossedList = .error crossing := by decide +kernel
  have h : compile [] crossedList = .error crossing := by rw [compile, hread, Except.map_error]
  have hscan : scanLines (crossing.span.cut crossedList.lines) = .error crossing.cause := by
    decide +kernel
  exact ⟨h, rfl, hscan, (scanLines_eq_error_iff h rfl).1 hscan⟩

/-- A service with the sum of two lists for a list. -/
def sumOfLists : Text :=
  ['\n'].intercalate (["state do", "@a: discovery(x=[1] + [2])", "end", "bloom do", "end"].map
    String.toList)

/-- All brackets of `sumOfLists` are closed, but one of them is reported to be out of
place, because the list is cut between two brackets that are no pair. -/
theorem sumOfLists_has_no_defect : ∃ d, compile [] sumOfLists = .error d ∧
    d.cause = .unmatchedClosing ']' ∧ d.span.cut sumOfLists.lines =
      ["@a: discovery(x=[1] + [2])".toList] ∧
    ∃ ss, scanLines (d.span.cut sumOfLists.lines) = .ok ss := by
  have hread : Description.ofText sumOfLists =
      .error ⟨.line 2, "@a: discovery(x=[1] + [2])".toList, .unmatchedClosing ']'⟩ := by
    decide +kernel
  refine ⟨_, by rw [compile, hread, Except.map_error], rfl, by decide +kernel, ?_⟩
  exact ⟨[.outside "@a: discovery".toList, .inside "(x=[1] + [2])".toList], by decide +kernel⟩

end Code

end Overlay
