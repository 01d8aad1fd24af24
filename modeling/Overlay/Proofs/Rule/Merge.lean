import Overlay.Proofs.Arguments
import Overlay.Proofs.Break.Line
import Overlay.Proofs.Condition.Shape
import Overlay.Proofs.Number.Rounding
import Overlay.Proofs.Rule.Call
import Overlay.Proofs.Rule.Resolution

/-!
The texts of merges and joins. A rule of this kind is read exactly from the texts
that are written as one: the destination, the arrow and a call of the delay, as many
sources as there must be, and for a join the call of a virtual property after them.
-/

namespace Overlay

open Text

/-! The delay. -/

/-- Whether a text is a number that is not below zero, with this value. -/
def Literal.IsDelay (l : Literal) (t : Text) : Prop :=
  match l with
  | integer n => t.integer? = some n ∧ 0 ≤ n.toInt
  | float x => t.float? = some x ∧ Float64.zero.le x = true
  | string _ => False

theorem Float64.zero_le_ofInt_iff (n : Int64) :
    Float64.zero.le (ofInt n.toInt) = true ↔ 0 ≤ n.toInt := by
  obtain ⟨z, hz, hzero⟩ := exists_ofInt (.ofInt64 0)
  obtain ⟨x, hx, hsigned⟩ := exists_ofInt (.ofInt64 n)
  have hone : (0 : Int) < unitsPerOne := Int.natCast_pos.2 unitsPerOne_pos
  have hcompare : Float64.zero.le (ofInt n.toInt) = (Ord.compare z.signed x.signed != .gt) := by
    change Float64.le (ofInt (Whole.ofInt64 0).val) (ofInt (Whole.ofInt64 n).val) = _
    rw [hz, hx]
    rfl
  have hz' : z.signed = 0 := by
    rw [hzero, show (Whole.ofInt64 0).val = 0 from rfl, Int.zero_mul]
    decide
  have hle (a b : Int) : (Ord.compare a b != .gt) = true ↔ a ≤ b := by
    rw [← Std.isLE_compare]
    cases Ord.compare a b <;> decide
  rw [hcompare, hle, hz', hsigned]
  change 0 ≤ nearestSigned (n.toInt * unitsPerOne) ↔ 0 ≤ n.toInt
  constructor
  · intro h
    by_contra hneg
    -- A number below zero is at least one unit below it, also after rounding.
    have hunits := Int.mul_neg_of_neg_of_pos (Int.not_le.1 hneg) hone
    have hmono := nearestSigned_mono (Int.le_sub_one_of_lt hunits)
    rw [show nearestSigned (0 - 1) = -1 by decide] at hmono
    omega
  · intro hnonneg
    have hmono := nearestSigned_mono (Int.mul_nonneg hnonneg (Int.le_of_lt hone))
    rwa [show nearestSigned 0 = 0 by decide] at hmono

theorem Merge.checkDelay_eq_ok_iff {kind : MergeKind} {l : Literal} :
    checkDelay kind l = .ok () ↔ l.asFloat?.any Float64.zero.le = true := by
  unfold checkDelay
  split
  · next h => simp [h]
  · next h => simp [h]

theorem Literal.isDelay_iff_isNumeral {l : Literal} {t : Text} :
    l.IsDelay t ↔ l.IsNumeral t ∧ l.asFloat?.any Float64.zero.le = true := by
  cases l <;> simp [IsDelay, IsNumeral, asFloat?, Float64.zero_le_ofInt_iff]

/-- A number that is accepted as a delay. -/
theorem Literal.isDelay_iff (kind : MergeKind) {l : Literal} {t : Text} :
    l.IsDelay t ↔ ∃ a, ArgumentType.convertFirst? ArgumentType.number t = some a ∧
      Argument.literal? a = some l ∧ Merge.checkDelay kind l = .ok () := by
  simp only [isDelay_iff_isNumeral, isNumeral_iff, Merge.checkDelay_eq_ok_iff, ← and_assoc,
    exists_and_right]

theorem Literal.IsDelay.isArgument {l : Literal} {t : Text} (h : l.IsDelay t) : IsArgument t :=
  .of_numeric (isDelay_iff_isNumeral.1 h).1.numeric

/-! Lines of source have no line feed, and so has the text of a unit. -/

theorem Content.not_mem {c : Char} {lines cs : List (Nat × Text)} (h : Content lines cs)
    (hlines : ∀ line ∈ texts lines, c ∉ line) : ∀ t ∈ texts cs, c ∉ t := by
  induction h with
  | nil => nofun
  | blank _ _ ih => exact ih (List.forall_mem_cons.1 hlines).2
  | @line _ line t _ _ hline _ _ ih =>
      obtain ⟨hfirst, hrest⟩ := List.forall_mem_cons.1 hlines
      refine List.forall_mem_cons.2 ⟨fun hmem => hfirst ?_, ih hrest⟩
      obtain ⟨-, -, rfl⟩ := stripComment_eq_ok_iff.1 hline
      obtain ⟨b, b', -, -, htrim, -, -⟩ := exists_trim line.beforeComment
      have hkept : c ∈ line.beforeComment := by
        rw [htrim]
        simp [hmem]
      exact mem_of_mem_beforeCommentFrom hkept

theorem SourceUnit.lineFeed_not_mem_text {u : SourceUnit} {first : Nat} {lines : List Text}
    (hu : ofLines first lines = .ok u) (hlines : ∀ line ∈ lines, '\n' ∉ line) :
    '\n' ∉ u.text := by
  obtain ⟨cs, hcs, rfl⟩ := ofLines_eq_ok_iff.1 hu
  rw [← texts_numberFrom first lines] at hlines
  intro hmem
  rcases mem_intercalate hmem with hmem | ⟨t, ht, hmem⟩
  · exact absurd hmem (by decide)
  · exact hcs.not_mem hlines t ht hmem

theorem MergeKind.leastSources_pos (kind : MergeKind) : 0 < kind.leastSources := by
  cases kind <;> decide

namespace Merge

/-! The arguments. -/

/-- The delay and the sources among the converted arguments. -/
theorem convert_eq_ok_iff {m : Method} {t : Text} {names : List Text} {args : List Argument} :
    m.convert (t :: names) (ArgumentType.number :: List.replicate names.length [.dataName]) =
        .ok args ↔
      ∃ a, ArgumentType.convertFirst? ArgumentType.number t = some a ∧
        (∀ name ∈ names, name.isName = true) ∧ args = a :: names.map .dataName := by
  rw [Method.convert, Method.convertFrom_eq_ok_iff, List.zip_cons_cons,
    List.forall₂_cons_left_iff]
  simp only [Method.forall₂_converts_names_iff, Method.Converts]
  constructor
  · rintro ⟨a, _, ha, ⟨hall, rfl⟩, rfl⟩
    exact ⟨a, ha, hall, rfl⟩
  · rintro ⟨a, ha, hall, rfl⟩
    exact ⟨a, _, ha, ⟨hall, rfl⟩, rfl⟩

/-- The sources are the names after the delay. -/
theorem mapM_nth_sources (a : Argument) (names : List Text) :
    (List.range' 1 names.length).mapM
      (Argument.nth Argument.text? (a :: names.map .dataName)) = .ok names :=
  Argument.mapM_nth_names [a] names

/-- Whether texts are what follows the sources in a call: nothing, or in a join the
call of a virtual property. -/
def IsVirtual (kind : MergeKind) : Option VirtualProperty → List Text → Prop
  | none, ts => ts = []
  | some p, ts => kind = .join ∧ ∃ t, p.IsWritten t ∧ ts = [t]

theorem ofCall?_of_isName {t : Text} (h : t.isName = true) : Method.ofCall? t = none := by
  have hname : t.leadingName? = some (t, []) :=
    leadingName?_eq_some_iff.2 ⟨h, (List.append_nil t).symm, nofun⟩
  simp [Method.ofCall?, hname]

/-- The last argument of a call without a virtual property is a source, so it is not
taken for one. -/
theorem isCalledBy_of_getLast? (delay : Text) {names : List Text} (hne : names ≠ [])
    (hnames : ∀ name ∈ names, name.isName = true) :
    ∀ t ∈ (delay :: names).getLast?, Method.virtual.isCalledBy t = false := by
  intro t ht
  rw [List.getLast?_cons_of_ne_nil hne] at ht
  have hnone := ofCall?_of_isName (hnames t (List.mem_of_getLast? ht))
  simp [Method.isCalledBy, hnone]

/-- A virtual property is found at the end, and no name is taken for one. -/
theorem splitVirtual_of_isVirtual {kind : MergeKind} {v : Option VirtualProperty}
    {ts virtual : List Text} (h : IsVirtual kind v virtual)
    (hlast : ∀ t ∈ ts.getLast?, Method.virtual.isCalledBy t = false) :
    splitVirtual kind (ts ++ virtual) = .ok (ts, v) := by
  cases v with
  | none =>
      obtain rfl : virtual = [] := h
      rw [List.append_nil]
      unfold splitVirtual
      split
      · next last hgetLast =>
        rw [if_neg (by simpa using hlast last hgetLast)]
      · rfl
  | some p =>
      obtain ⟨rfl, t, ht, rfl⟩ := h
      have hread := VirtualProperty.ofText_eq_ok_iff.2 ht
      obtain ⟨-, -, body, -, -, hcall⟩ := ht
      have hcalled : Method.virtual.isCalledBy t = true := by
        simp [Method.isCalledBy, hcall.ofCall?]
      simp only [splitVirtual, List.getLast?_concat, List.dropLast_concat, if_pos hcalled, hread]
      rfl

theorem exists_virtual_of_splitVirtual {kind : MergeKind} {v : Option VirtualProperty}
    {ts ts' : List Text} (h : splitVirtual kind ts = .ok (ts', v)) :
    ∃ virtual, IsVirtual kind v virtual ∧ ts = ts' ++ virtual := by
  unfold splitVirtual at h
  split at h
  · next last hlast =>
    split at h
    · simp only [Except.bind_eq_ok_iff, Except.pure_eq_ok_iff] at h
      obtain ⟨p, hp, heq⟩ := h
      cases heq
      refine ⟨[last], ⟨rfl, last, VirtualProperty.ofText_eq_ok_iff.1 hp, rfl⟩, ?_⟩
      exact (List.dropLast_append_getLast? last hlast).symm
    · cases h
      exact ⟨[], rfl, (List.append_nil ts).symm⟩
  · cases h
    exact ⟨[], rfl, (List.append_nil ts).symm⟩

theorem checkChannels_eq_ok_iff {s : StateBlock} {names : List Text} :
    checkChannels s names = .ok () ↔ ∀ name ∈ names, s.DeclaresChannel name := by
  refine ⟨declaresChannel_of_checkChannels, fun h => ?_⟩
  have hnone : names.find? (fun name => (s.channel? name).isNone) = none :=
    List.find?_eq_none.2 fun name hname => by
      simpa [StateBlock.channel?, StateBlock.DeclaresChannel] using h name hname
  rw [checkChannels, hnone]

/-! The text. -/

theorem ofMethod?_eq_some_iff {m : Method} {kind : MergeKind} :
    MergeKind.ofMethod? m = some kind ↔ m = kind.method := by
  cases kind <;> cases m <;> simp [MergeKind.ofMethod?, MergeKind.method]

/-- What stands before the arguments: a name, the arrow and a call of the method. -/
theorem head?_eq_some_iff {t destination call : Text} {kind : MergeKind} (hline : '\n' ∉ t) :
    head? t = some (destination, kind, call) ↔
      destination.isName = true ∧ Method.ofCall? call = some kind.method ∧
      ∃ b b', b.allBlank = true ∧ b'.allBlank = true ∧
        t = destination ++ b ++ Transmission.arrow ++ b' ++ call := by
  simp only [head?, Option.bind_eq_bind, Option.bind_eq_some_iff, Prod.exists, Option.some.injEq,
    Prod.mk.injEq, ofMethod?_eq_some_iff, nameThen?_eq_some_iff, leadingName?_eq_some_iff]
  constructor
  · rintro ⟨_, rest, ⟨after, ⟨hname, rfl, -⟩, hafter⟩, _, hrest, _, ⟨m, hm, rfl⟩, rfl, rfl, rfl⟩
    obtain ⟨b, hb, hblank⟩ := exists_dropBlank after
    obtain ⟨b', hb', rfl⟩ := Leaf.exists_of_restOfLine? hrest
    refine ⟨hname, hm, b, b', hb, hb', ?_⟩
    rw [hblank, hafter]
    simp
  · rintro ⟨hname, hm, b, b', hb, hb', rfl⟩
    have hcall : call ≠ [] ∧ StartsSolid call := by
      simp only [Method.ofCall?, Option.bind_eq_bind, Option.bind_eq_some_iff, Prod.exists] at hm
      obtain ⟨name, rest, hleading, -⟩ := hm
      obtain ⟨hisName, rfl, -⟩ := leadingName?_eq_some_iff.1 hleading
      have harg := IsArgument.of_isName hisName
      exact ⟨by simp [harg.nonempty], harg.starts.append harg.nonempty⟩
    have hdrop : dropBlank (b' ++ call) = call := by
      rw [dropBlank_append hb', dropBlank_of_startsSolid hcall.2]
    have hrest : restOfLine? (b' ++ call) = some call := by
      have hnot : '\n' ∉ call := fun hmem => hline (by simp [hmem])
      simp [restOfLine?, hdrop, hcall.1, hnot]
    refine ⟨destination, b' ++ call, ⟨b ++ Transmission.arrow ++ (b' ++ call), ⟨hname, by simp, ?_⟩,
      ?_⟩, call, hrest, kind, ⟨_, hm, rfl⟩, rfl, rfl, rfl⟩
    · intro c hc
      cases b with
      | nil =>
          cases hc
          decide
      | cons d b =>
          cases hc
          exact isWord_eq_false_of_isBlank (allBlank_cons.1 hb).1
    · rw [List.append_assoc, dropBlank_append hb, dropBlank_of_startsSolid]
      exact StartsSolid.append (startsSolid_cons.2 (by decide)) (by decide)

/-- Whether a text is written as a merge or a join, with any blanks around the arrow
and around the arguments. -/
def IsWritten (m : Merge) (t : Text) : Prop :=
  m.kind.leastSources ≤ m.sources.length ∧
    (∀ name ∈ m.destination :: m.sources, name.isName = true) ∧
    ∃ delay virtual call b b', m.delay.IsDelay delay ∧ IsVirtual m.kind m.virtual virtual ∧
      m.kind.method.IsWritten (delay :: m.sources ++ virtual) call ∧
      b.allBlank = true ∧ b'.allBlank = true ∧
      t = m.destination ++ b ++ Transmission.arrow ++ b' ++ call

theorem IsVirtual.isArgument {kind : MergeKind} {v : Option VirtualProperty} {virtual : List Text}
    (h : IsVirtual kind v virtual) : ∀ t ∈ virtual, IsArgument t := by
  cases v with
  | none =>
      obtain rfl : virtual = [] := h
      nofun
  | some p =>
      obtain ⟨-, t, ht, rfl⟩ := h
      intro u hu
      obtain rfl := List.mem_singleton.1 hu
      exact ht.isArgument

/-- Merges and joins are read exactly from the texts that are written as one. -/
theorem ofUnit_eq_ok_iff_isWritten {s : StateBlock} {u : SourceUnit} {first : Nat}
    {lines : List Text} (hu : SourceUnit.ofLines first lines = .ok u)
    (hlines : ∀ line ∈ lines, '\n' ∉ line) {m : Merge} :
    ofUnit s u = .ok m ↔ m.unit = u ∧ m.Resolves s ∧ m.IsWritten u.text := by
  have hline := SourceUnit.lineFeed_not_mem_text hu hlines
  simp only [ofUnit_eq_ok_iff, head?_eq_some_iff hline, Method.expectAtLeast_eq_ok_iff]
  constructor
  · rintro ⟨call, ts, ts', args, ⟨hname, -, b, b', hb, hb', htext⟩, hts, hvirtual, hlen, hargs,
      hdelay, hcheck, hsources, hchannels, hunit⟩
    obtain ⟨virtual, hisVirtual, rfl⟩ := exists_virtual_of_splitVirtual hvirtual
    -- The format has as many places as there are arguments, so it says nothing of their number.
    cases ts' with
    | nil => simp at hlen
    | cons delay names =>
        rw [List.length_cons, Nat.add_sub_cancel] at hargs
        obtain ⟨a, ha, hnames, rfl⟩ := convert_eq_ok_iff.1 hargs
        obtain ⟨_, ha0, hliteral⟩ := Argument.nth_eq_ok_iff.1 hdelay
        cases ha0
        rw [List.length_cons, List.length_map, Nat.add_sub_cancel, mapM_nth_sources] at hsources
        obtain rfl := Except.ok.inj hsources
        have hall := checkChannels_eq_ok_iff.1 hchannels
        refine ⟨hunit, ⟨hall _ (by simp), fun name hmem => hall name (by simp [hmem])⟩,
          Nat.le_of_succ_le_succ hlen, List.forall_mem_cons.2 ⟨hname, hnames⟩, delay, virtual, call,
          b, b', (Literal.isDelay_iff m.kind).2 ⟨a, ha, hliteral, hcheck⟩, hisVirtual,
          Method.isWritten_of_arguments hts (List.cons_ne_nil _ _), hb, hb', htext⟩
  · rintro ⟨hunit, hresolves, hlen, hnames, delay, virtual, call, b, b', hdelay, hvirtual, hcall,
      hb, hb', htext⟩
    obtain ⟨hdestination, hsources⟩ := List.forall_mem_cons.1 hnames
    have hargs : ∀ arg ∈ delay :: m.sources ++ virtual, IsArgument arg := by
      intro arg harg
      rcases List.mem_append.1 harg with harg | harg
      · exact List.forall_mem_cons.2
          ⟨hdelay.isArgument, fun name hname => .of_isName (hsources name hname)⟩ arg harg
      · exact hvirtual.isArgument arg harg
    have hne := List.ne_nil_of_length_pos (Nat.lt_of_lt_of_le m.kind.leastSources_pos hlen)
    have hlast := isCalledBy_of_getLast? delay hne hsources
    obtain ⟨a, ha, hliteral, hcheck⟩ := (Literal.isDelay_iff m.kind).1 hdelay
    refine ⟨call, _, delay :: m.sources, a :: m.sources.map .dataName,
      ⟨hdestination, hcall.ofCall?, b, b', hb, hb', htext⟩,
      hcall.arguments (List.cons_ne_nil _ _) hargs, splitVirtual_of_isVirtual hvirtual hlast,
      Nat.succ_le_succ hlen, ?_, Argument.nth_eq_ok_iff.2 ⟨a, rfl, hliteral⟩, hcheck, ?_, ?_, hunit⟩
    · rw [List.length_cons, Nat.add_sub_cancel]
      exact convert_eq_ok_iff.2 ⟨a, ha, hsources, rfl⟩
    · rw [List.length_cons, List.length_map, Nat.add_sub_cancel]
      exact mapM_nth_sources a m.sources
    · refine checkChannels_eq_ok_iff.2 fun name hname => ?_
      rcases List.mem_append.1 hname with hname | hname
      · exact hresolves.sources name hname
      · obtain rfl := List.mem_singleton.1 hname
        exact hresolves.destination

def joinLines : List Text :=
  ["all <~ join( 0,one ,".toList, "  one, virtual(v, \"a, b)\")) # twice".toList]

def joinUnit : SourceUnit where
  first := 4
  lines := joinLines
  text := "all <~ join( 0,one , one, virtual(v, \"a, b)\"))".toList

/-- A state block with the channels that are joined. -/
def joinedChannels : StateBlock where
  services := []
  scratches := []
  channels := [⟨.channel, "one".toList, "here".toList, .bare 0⟩,
    ⟨.channel, "all".toList, "here".toList, .bare 0⟩]
  unit := .bare 0

def joinRule : Merge where
  kind := .join
  delay := .integer 0
  sources := ["one".toList, "one".toList]
  destination := "all".toList
  virtual := some ⟨"v".toList, "a, b)".toList⟩
  unit := joinUnit

theorem joinRule_isWritten : SourceUnit.ofLines 4 joinLines = .ok joinUnit ∧
    (∀ line ∈ joinLines, '\n' ∉ line) ∧ ofUnit joinedChannels joinUnit = .ok joinRule ∧
    joinRule.IsWritten joinUnit.text := by
  have hu : SourceUnit.ofLines 4 joinLines = .ok joinUnit := by decide +kernel
  have hlines : ∀ line ∈ joinLines, '\n' ∉ line := by decide +kernel
  have hread : ofUnit joinedChannels joinUnit = .ok joinRule := by decide +kernel
  exact ⟨hu, hlines, hread, ((ofUnit_eq_ok_iff_isWritten hu hlines).1 hread).2.2⟩

end Merge

end Overlay
