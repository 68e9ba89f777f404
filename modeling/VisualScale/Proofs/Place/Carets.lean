import VisualScale.Proofs.Failing
import VisualScale.Proofs.Language.Trusting
import VisualScale.Proofs.Place.Lines
import VisualScale.Proofs.Place.Rules

/-!
# Carets under a place

A diagnostic of a place on one line shows the line with carets under the place. Its columns are
bytes of the source line, and the carets are set out in characters of the shown line: what it shows
is the place exactly (`exactLines`) if and only if the shown line is the source line and neither the
place nor what stands before it in the line holds a character of several bytes
(`describePlace_eq_exactLines_iff`). Every place that a failure to read or to compile a formula
tells is a part of a source line (`ParsedFormula.Fails.standsIn`).
-/

namespace VisualScale

open Text

/-! ## 1. Bytes and characters -/

namespace Text

variable {cs : List Char}

theorem length_le_byteLength (cs : List Char) : cs.length ≤ byteLength cs := by
  induction cs with
  | nil => exact Nat.le_refl 0
  | cons c cs ih =>
    have hc := utf8Size_pos c
    rw [List.length_cons, byteLength_cons]
    omega

/-- A text has as many bytes as characters if and only if each of them has one. -/
theorem byteLength_eq_length_iff : byteLength cs = cs.length ↔ ∀ c ∈ cs, c.utf8Size = 1 := by
  induction cs with
  | nil => simp
  | cons c cs ih =>
    have hc := utf8Size_pos c
    have hle := length_le_byteLength cs
    rw [byteLength_cons, List.length_cons, List.forall_mem_cons, ← ih]
    omega

theorem shownLines_ne_nil (h : cs ≠ []) : shownLines cs ≠ [] := by
  unfold shownLines
  split
  · exact absurd rfl h
  · exact List.cons_ne_nil _ _
  · next c rest _ =>
    split
    · exact List.cons_ne_nil _ _
    · cases shownLines rest <;> exact List.cons_ne_nil _ _

end Text

/-! ## 2. The exact description -/

/-- What stands before the shown line. -/
def lineLabel (source : String) (n : Nat) : String :=
  if (shownLines source.toList).length = 1 then formulaLabel else s!"Expression (line {n}): "

/-- The lines that describe a part of line `n` exactly: the column of its first character, its text,
    the line, and below it a caret for each character of the part. -/
def exactLines (source : String) (n : Nat) (before code after : List Char) : List String :=
  [ if 1 < (shownLines source.toList).length then s!"Location: line {n}, column {before.length + 1}"
    else s!"Location: column {before.length + 1}"
  , s!"Code: {String.ofList code}"
  , lineLabel source n ++ .ofList (before ++ (code ++ after))
  , .ofList (List.replicate ((lineLabel source n).length + before.length) ' ' ++
      List.replicate code.length '^') ]

section

variable {source : String} {s : Span} {before code after : List Char}

/-- **The text of a place on a line is its part of the line.** -/
theorem Text.OnLine.codeBetween_eq (h : OnLine source.toList s before code after) :
    codeBetween source s.start s.stop = some code := by
  obtain ⟨line, hline, hparts⟩ := h.line
  obtain ⟨ending, hending⟩ := exists_lineEnd line
  unfold codeBetween
  simp only [h.stop, h.start_column, hline, if_true]
  rw [hending, hparts, List.append_assoc, List.append_assoc, cut_append]

theorem Text.OnLine.source_ne_nil (h : OnLine source.toList s before code after) :
    source.toList ≠ [] := by
  obtain ⟨line, hline, -⟩ := h.line
  intro hnil
  rw [hnil] at hline
  cases hline

theorem pointer_eq {n start stop : Nat} (hne : source.toList ≠ []) (hn : 1 ≤ n)
    (hlt : start < stop) :
    pointer source n start (some stop) = ((shownLines source.toList)[n - 1]?).elim [] fun text =>
      [ lineLabel source n ++ .ofList text
      , .ofList (List.replicate ((lineLabel source n).length + min start text.length) ' ' ++
          List.replicate (stop - min start text.length) '^') ] := by
  unfold pointer
  simp only [if_neg (shownLines_ne_nil hne), Int.toNat_natCast]
  rw [if_neg (by omega)]
  cases (shownLines source.toList)[n - 1]? with
  | none => rfl
  | some text =>
    have hstart : max 0 (min (start : Int) text.length) = (min start text.length : Nat) := by omega
    have hwidth : (if ((min start text.length : Nat) : Int) < stop
        then (stop : Int) - (min start text.length : Nat) else 1).toNat =
        stop - min start text.length := by
      rw [if_pos (by omega)]
      omega
    simp only [hstart, hwidth, Int.toNat_natCast, Option.elim_some]
    rfl

/-- A line of carets tells how many blanks and how many carets it has. -/
theorem caretLine_inj {a b a' b' : Nat}
    (h : (String.ofList (List.replicate a ' ' ++ List.replicate b '^')).toList =
      (String.ofList (List.replicate a' ' ' ++ List.replicate b' '^')).toList) :
    a = a' ∧ b = b' := by
  simp only [String.toList_ofList] at h
  have hblanks := congrArg (List.count ' ') h
  have hcarets := congrArg (List.count '^') h
  simp [List.count_append, List.count_replicate] at hblanks hcarets
  exact ⟨hblanks, hcarets⟩

/-- The description of a place on a line, with what is shown of the line. -/
theorem Text.OnLine.describePlace_eq (h : OnLine source.toList s before code after) :
    describePlace (some source) s.place =
      (if 1 < (shownLines source.toList).length then
        s!"Location: line {s.start.line}, column {byteLength before + 1}"
      else s!"Location: column {byteLength before + 1}") :: s!"Code: {String.ofList code}" ::
      ((shownLines source.toList)[s.start.line - 1]?).elim [] fun text =>
        [ lineLabel source s.start.line ++ .ofList text
        , .ofList (List.replicate ((lineLabel source s.start.line).length +
              min (byteLength before) text.length) ' ' ++
            List.replicate
              (byteLength before + byteLength code - min (byteLength before) text.length) '^') ] := by
  have hcode : 0 < byteLength code :=
    Nat.lt_of_lt_of_le (List.length_pos_iff.2 h.solid.ne_nil) (length_le_byteLength code)
  have hlt : byteLength before < byteLength before + byteLength code :=
    Nat.lt_add_of_pos_right hcode
  have hpointer := pointer_eq h.source_ne_nil h.start_line hlt
  have hne : String.ofList code ≠ "" := by
    intro heq
    exact h.solid.ne_nil (by rw [← String.toList_ofList (l := code), heq]; rfl)
  unfold describePlace Span.place
  simp only [h.codeBetween_eq, Option.map_some, h.solid.trim_eq]
  unfold describeSpan
  simp only [h.stop, h.start_column, if_true, hpointer, if_neg hne, decide_eq_true_eq]
  rfl

/-- **A place on a line is described exactly if and only if** the line is shown as it stands in the
    source, and every character up to the end of the place has one byte. -/
theorem describePlace_eq_exactLines_iff (h : OnLine source.toList s before code after) :
    describePlace (some source) s.place = exactLines source s.start.line before code after ↔
      (shownLines source.toList)[s.start.line - 1]? = some (before ++ (code ++ after)) ∧
        ∀ c ∈ before ++ code, c.utf8Size = 1 := by
  have hcode := List.length_pos_iff.2 h.solid.ne_nil
  rw [h.describePlace_eq, ← byteLength_eq_length_iff, byteLength_append, List.length_append]
  unfold exactLines
  constructor
  · -- The shown line and the line of carets below it settle everything.
    intro heq
    have htail := (List.cons.inj (List.cons.inj heq).2).2
    cases hshown : (shownLines source.toList)[s.start.line - 1]? with
    | none => rw [hshown] at htail; cases htail
    | some text =>
      rw [hshown] at htail
      obtain ⟨hline, hcarets⟩ := List.cons.inj htail
      have htext : text = before ++ (code ++ after) := by
        have hlist := congrArg String.toList hline
        simp only [String.toList_append, String.toList_ofList] at hlist
        exact List.append_cancel_left hlist
      have hcolumns := caretLine_inj (congrArg String.toList (List.cons.inj hcarets).1)
      have hlength := congrArg List.length htext
      simp only [List.length_append] at hlength
      refine ⟨congrArg some htext, ?_⟩
      omega
  · rintro ⟨hshown, hbytes⟩
    have hbefore := length_le_byteLength before
    have hle := length_le_byteLength code
    have hmin : min (byteLength before) (before ++ (code ++ after)).length = before.length := by
      rw [List.length_append]
      omega
    have hwidth : byteLength before + byteLength code - before.length = code.length := by omega
    rw [hshown, Option.elim_some, hmin, hwidth, show byteLength before = before.length by omega]

end

/-! ## 3. Places of failures -/

/-- Where words go, a part of the text stands. -/
theorem Spans.stands {cs : List Char} {tokens : List Token} {s : Span} (h : Spans tokens s)
    (hlex : Lexer.lex cs = some tokens) : Stands ⟨1, 0⟩ (Lexer.unifyLineEnds cs) s := by
  obtain ⟨before, t, ts, after, rfl, rfl⟩ := h
  exact (Lexer.laid_lex hlex).stands

theorem Failure.site_at {source : String} {span : Span} {fault : Fault} {site : Site}
    (h : (Failure.at source span fault).site = some site) : site = ⟨source, span⟩ := by
  unfold Failure.at at h
  split at h
  · exact (Option.some.inj h).symm
  · exact (Option.some.inj h).symm
  · cases h

namespace ParsedFormula

variable {text : String} {failure : Failure} {site : Site}

/-- A text fails to be read as a formula, or its formula fails to compile against an environment. -/
def Fails (text : String) (env : Table Value) (failure : Failure) : Prop :=
  ofText text = .error failure ∨ ∃ p, ofText text = .ok p ∧ p.compileWith env = .error failure

/-- The site is a part of a text without the white space around it. -/
def StandsIn (text : String) (site : Site) : Prop :=
  site.source = String.ofList (trim text.toList) ∧
    Stands ⟨1, 0⟩ (Lexer.unifyLineEnds (trim text.toList)) site.span

theorem standsIn_of_ofText (h : ofText text = .error failure) (hsite : failure.site = some site) :
    StandsIn text site := by
  unfold ofText ofTrimmed at h
  dsimp only at h
  split at h
  · obtain rfl := Except.error.inj h
    cases hsite
  split at h
  · obtain rfl := Except.error.inj h
    cases hsite
  split at h
  · obtain rfl := Except.error.inj h
    cases hsite
  next tokens hlex =>
  split at h
  · cases h
  obtain rfl := Except.error.inj h
  unfold whyNot at hsite
  split at hsite
  · next why span hwhy =>
    obtain ⟨ph, hph, hr⟩ := Option.bind_eq_some_iff.1 hwhy
    obtain rfl := Failure.site_at hsite
    exact ⟨rfl, ((Phrase.placed_of_read hph).refusal hr).stands hlex⟩
  · cases hsite

theorem standsIn_of_compile {p : ParsedFormula} {env : Environment} (hp : ofText text = .ok p)
    (h : p.compile env = .error failure) (hsite : failure.site = some site) :
    StandsIn text site := by
  obtain ⟨-, -, hsource, tokens, hlex, hread⟩ := ofText_ok hp
  obtain ⟨ph, hph, -, hformula⟩ := exists_phrase hlex hread
  obtain ⟨path, node, fault, hnode, -, rfl⟩ := Formula.compile_eq_error_iff.1 h
  obtain rfl := Failure.site_at hsite
  exact ⟨hsource, ((Phrase.placed_of_read hph).node hformula hnode).stands hlex⟩

theorem environmentOf_error {env : Table Value} (h : environmentOf env = .error failure) :
    failure.site = none := by
  fun_induction environmentOf env with
  | case1 => cases h
  | case2 name e rest ih =>
    cases hrest : environmentOf rest with
    | ok _ => rw [hrest] at h; cases h
    | error failure' =>
      rw [hrest] at h
      obtain rfl := Except.error.inj h
      exact ih hrest
  | case3 =>
    obtain rfl := Except.error.inj h
    rfl

/-- **Every place that a failure tells is a part of the text.** -/
theorem Fails.standsIn {env : Table Value} (h : Fails text env failure)
    (hsite : failure.site = some site) : StandsIn text site := by
  rcases h with h | ⟨p, hp, h⟩
  · exact standsIn_of_ofText h hsite
  · unfold compileWith at h
    cases henv : environmentOf env with
    | error failure' =>
      rw [henv] at h
      obtain rfl := Except.error.inj h
      rw [environmentOf_error henv] at hsite
      cases hsite
    | ok env' =>
      rw [henv] at h
      exact standsIn_of_compile hp h hsite

/-- **A message shows a place on one line exactly if and only if** the line is shown as it stands in
    the source, and there is no character of several bytes up to the end of the place. The place is
    always a part of its source line, and its text is that part; the message is made of the lines
    that describe the place. -/
theorem describes_exactly_iff {env : Table Value} (h : Fails text env failure)
    (hsite : failure.site = some site) (hline : site.span.start.line = site.span.stop.line) :
    site.source = String.ofList (trim text.toList) ∧
      failure.text = failure.fault.message ++ "\n" ++
        "\n".intercalate (describePlace (some site.source) site.span.place) ∧
      ∃ before code after, OnLine site.source.toList site.span before code after ∧
        codeBetween site.source site.span.start site.span.stop = some code ∧
        (describePlace (some site.source) site.span.place =
            exactLines site.source site.span.start.line before code after ↔
          (shownLines site.source.toList)[site.span.start.line - 1]? =
              some (before ++ (code ++ after)) ∧
            ∀ c ∈ before ++ code, c.utf8Size = 1) := by
  obtain ⟨hsource, hstands⟩ := h.standsIn hsite
  refine ⟨hsource, ?_, ?_⟩
  · unfold Failure.text annotate
    rw [hsite]
  · obtain ⟨before, code, after, honLine⟩ := hstands.exists_onLine hline
    rw [← String.toList_ofList (l := trim text.toList), ← hsource] at honLine
    exact ⟨before, code, after, honLine, honLine.codeBetween_eq,
      describePlace_eq_exactLines_iff honLine⟩

/-- A name that stands for nothing, behind a sign. -/
theorem describes_exactly_name :
    let p : ParsedFormula :=
      ⟨"-foo", .signed .minus (.name "foo" ⟨⟨1, 1⟩, ⟨1, 4⟩⟩) ⟨⟨1, 0⟩, ⟨1, 4⟩⟩⟩
    let failure : Failure := ⟨.unknownIdentifier "foo", some ⟨"-foo", ⟨⟨1, 1⟩, ⟨1, 4⟩⟩⟩⟩
    ofText "-foo" = .ok p ∧ p.compileWith [] = .error failure ∧
      ∃ before code after, OnLine "-foo".toList ⟨⟨1, 1⟩, ⟨1, 4⟩⟩ before code after ∧
        codeBetween "-foo" ⟨1, 1⟩ ⟨1, 4⟩ = some code ∧
        (describePlace (some "-foo") ⟨⟨1, 1⟩, some ⟨1, 4⟩⟩ =
            exactLines "-foo" 1 before code after ↔
          (shownLines "-foo".toList)[0]? = some (before ++ (code ++ after)) ∧
            ∀ c ∈ before ++ code, c.utf8Size = 1) := by
  intro p failure
  have hread : ofText "-foo" = .ok p := rfl
  have hfail : p.compileWith [] = .error failure := rfl
  exact ⟨hread, hfail, (describes_exactly_iff (.inr ⟨p, hread, hfail⟩) rfl rfl).2.2⟩

/-- A text of three characters and four bytes, and the blank behind it, have carets below. -/
theorem exists_not_exactLines : ∃ text env failure site before code after,
    Fails text env failure ∧ failure.site = some site ∧
      site.span.start.line = site.span.stop.line ∧
      OnLine site.source.toList site.span before code after ∧
      (shownLines site.source.toList)[site.span.start.line - 1]? =
        some (before ++ (code ++ after)) ∧
      describePlace (some site.source) site.span.place ≠
        exactLines site.source site.span.start.line before code after := by
  refine ⟨"'é' + 1", [], ⟨.refused .nonNumericConstant, some ⟨"'é' + 1", ⟨⟨1, 0⟩, ⟨1, 4⟩⟩⟩⟩,
    ⟨"'é' + 1", ⟨⟨1, 0⟩, ⟨1, 4⟩⟩⟩, [], "'é'".toList, " + 1".toList, .inl ?_, rfl, rfl, ?_, rfl, ?_⟩
  · have htrim : trim "'é' + 1".toList = "'é' + 1".toList := rfl
    have hlex : Lexer.lex "'é' + 1".toList = some
        [⟨.other (.text false), ⟨⟨1, 0⟩, ⟨1, 4⟩⟩⟩, ⟨.mark .plus, ⟨⟨1, 5⟩, ⟨1, 6⟩⟩⟩,
          ⟨.whole 1, ⟨⟨1, 7⟩, ⟨1, 8⟩⟩⟩] := rfl
    unfold ofText ofTrimmed
    dsimp only
    rw [htrim, if_neg (by decide), if_neg (by decide), hlex, String.ofList_toList]
    rfl
  · exact ⟨⟨_, rfl, rfl⟩, solid_of_isPacked (by decide), by decide, rfl, rfl⟩
  · decide

end ParsedFormula

end VisualScale
