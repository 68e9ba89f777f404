import VisualScale.Proofs.Place.Layout

/-!
# Places on one line

A position counts lines and bytes in a text whose line ends were made line feeds before; the lines
of a diagnostic are those of the text as it was given. The two agree up to the line ends
(`map_withoutLineEnd_unifyLineEnds`). So a place that begins and ends on one line stands in that
source line, at byte columns that its own text and the text before it give (`Stands.exists_onLine`).
-/

namespace VisualScale

open Text

theorem Position.line_after (p : Position) (cs : List Char) :
    (p.after cs).line = p.line + cs.count '\n' := by
  induction cs generalizing p with
  | nil => rfl
  | cons c cs ih =>
    have hcons : p.after (c :: cs) = (p.after [c]).after cs := p.after_append [c] cs
    rw [hcons, ih, List.count_cons]
    by_cases hc : c = '\n'
    · simp [Position.after, hc]
      omega
    · simp [Position.after, hc]

theorem Position.after_lineFeed (p : Position) {line : List Char} (h : '\n' ∉ line)
    (cs : List Char) : p.after (line ++ '\n' :: cs) = (⟨p.line + 1, 0⟩ : Position).after cs := by
  rw [p.after_append, p.after_of_no_lineFeed h]
  rfl

namespace Text

variable {a cs rest : List Char} {c : Char}

/-! ## 1. Lines without their ends -/

/-- A line without the characters that end it. -/
def withoutLineEnd (line : List Char) : List Char := line.takeWhile fun c => c != '\n' && c != '\r'

theorem withoutLineEnd_append (hn : '\n' ∉ a) (hr : '\r' ∉ a) (b : List Char) :
    withoutLineEnd (a ++ b) = a ++ withoutLineEnd b := by
  refine List.takeWhile_append_of_pos fun c hc => ?_
  simp only [Bool.and_eq_true, bne_iff_ne]
  exact ⟨fun heq => hn (heq ▸ hc), fun heq => hr (heq ▸ hc)⟩

theorem withoutLineEnd_cons (hn : c ≠ '\n') (hr : c ≠ '\r') (cs : List Char) :
    withoutLineEnd (c :: cs) = c :: withoutLineEnd cs :=
  withoutLineEnd_append (a := [c]) (by simpa using hn.symm) (by simpa using hr.symm) cs

theorem exists_lineEnd (line : List Char) : ∃ ending, line = withoutLineEnd line ++ ending :=
  ⟨_, List.takeWhile_append_dropWhile.symm⟩

theorem map_consLine (hn : c ≠ '\n') (hr : c ≠ '\r') (ls : List (List Char)) :
    (consLine c ls).map withoutLineEnd = consLine c (ls.map withoutLineEnd) := by
  cases ls with
  | nil => exact congrArg (· :: []) (withoutLineEnd_cons hn hr [])
  | cons l ls => exact congrArg (· :: ls.map withoutLineEnd) (withoutLineEnd_cons hn hr l)

theorem sourceLines_cons (hr : c ≠ '\r') (cs : List Char) : sourceLines (c :: cs) =
    if c = '\n' then [c] :: sourceLines cs else consLine c (sourceLines cs) := by
  conv_lhs => unfold sourceLines
  split
  · next heq => cases heq
  · next heq => exact absurd (List.cons.inj heq).1 hr
  · next heq =>
    obtain ⟨rfl, rfl⟩ := List.cons.inj heq
    simp only [hr, or_false]

theorem sourceLines_lineFeed {line : List Char} (hn : '\n' ∉ line) (hr : '\r' ∉ line)
    (rest : List Char) :
    sourceLines (line ++ '\n' :: rest) = (line ++ ['\n']) :: sourceLines rest := by
  induction line with
  | nil => rw [List.nil_append, sourceLines_cons (by decide), if_pos rfl, List.nil_append]
  | cons c line ih =>
    obtain ⟨hcn, hn⟩ := List.ne_and_not_mem_of_not_mem_cons hn
    obtain ⟨hcr, hr⟩ := List.ne_and_not_mem_of_not_mem_cons hr
    rw [List.cons_append, sourceLines_cons hcr.symm, if_neg hcn.symm, ih hn hr]
    rfl

/-- The first line of a text goes as far as the text does without a line end. -/
theorem exists_sourceLines_cons (h : cs ≠ []) :
    ∃ line ls, sourceLines cs = line :: ls ∧ withoutLineEnd line = withoutLineEnd cs := by
  fun_induction sourceLines cs with
  | case1 => exact absurd rfl h
  | case2 rest => exact ⟨_, _, rfl, rfl⟩
  | case3 c rest _ hc =>
    refine ⟨_, _, rfl, ?_⟩
    rcases hc with rfl | rfl
    · rfl
    · rfl
  | case4 c rest _ hc ih =>
    obtain ⟨hn, hr⟩ := not_or.1 hc
    cases rest with
    | nil => exact ⟨[c], [], rfl, rfl⟩
    | cons d rest =>
      obtain ⟨line, ls, hlines, hline⟩ := ih (List.cons_ne_nil _ _)
      refine ⟨c :: line, ls, by rw [hlines]; rfl, ?_⟩
      rw [withoutLineEnd_cons hn hr, withoutLineEnd_cons hn hr, hline]

/-! ## 2. Line ends made line feeds -/

theorem notMem_unifyLineEnds (cs : List Char) : '\r' ∉ Lexer.unifyLineEnds cs := by
  fun_induction Lexer.unifyLineEnds cs with
  | case1 => exact List.not_mem_nil
  | case2 rest ih => exact List.not_mem_cons_of_ne_of_not_mem (by decide) ih
  | case3 c rest _ ih =>
    refine List.not_mem_cons_of_ne_of_not_mem ?_ ih
    split
    · decide
    · next hc => exact Ne.symm hc

/-- **Line ends made line feeds change no line but at its end.** -/
theorem map_withoutLineEnd_unifyLineEnds (cs : List Char) :
    (sourceLines (Lexer.unifyLineEnds cs)).map withoutLineEnd =
      (sourceLines cs).map withoutLineEnd := by
  have hfeed (rest : List Char) : sourceLines ('\n' :: rest) = ['\n'] :: sourceLines rest := by
    rw [sourceLines_cons (by decide), if_pos rfl]
  fun_induction Lexer.unifyLineEnds cs with
  | case1 => rfl
  | case2 rest ih =>
    rw [hfeed, List.map_cons, ih]
    rfl
  | case3 c rest hpair ih =>
    by_cases hr : c = '\r'
    · have hreturn : sourceLines (c :: rest) = [c] :: sourceLines rest := by
        rw [sourceLines]
        · rw [if_pos (.inr hr)]
        · exact fun rest' hc hrest => hpair rest' hc hrest
      rw [hreturn, if_pos hr, hfeed, List.map_cons, List.map_cons, ih, hr]
      rfl
    · rw [if_neg hr, sourceLines_cons hr, sourceLines_cons hr]
      by_cases hn : c = '\n'
      · rw [if_pos hn, if_pos hn, List.map_cons, List.map_cons, ih]
      · rw [if_neg hn, if_neg hn, map_consLine hn hr, map_consLine hn hr, ih]

/-! ## 3. Positions -/

/-- Where a text goes on behind another one, it does so in the line that the line feeds tell, behind
    as many bytes of it as the column tells. -/
theorem exists_sourceLine (n : Nat) (hr : '\r' ∉ a) (hne : rest ≠ []) :
    ∃ line before, (sourceLines (a ++ rest))[a.count '\n']? = some line ∧
      withoutLineEnd line = before ++ withoutLineEnd rest ∧
      ((⟨n, 0⟩ : Position).after a).column = byteLength before := by
  induction hfeeds : a.count '\n' generalizing a n with
  | zero =>
    have hn : '\n' ∉ a := List.count_eq_zero.1 hfeeds
    obtain ⟨line, ls, hlines, hline⟩ :=
      exists_sourceLines_cons (List.append_ne_nil_of_right_ne_nil a hne)
    refine ⟨line, a, by rw [hlines]; rfl, by rw [hline, withoutLineEnd_append hn hr], ?_⟩
    rw [Position.after_of_no_lineFeed _ hn, Nat.zero_add]
  | succ k ih =>
    have hmem : '\n' ∈ a := List.count_pos_iff.1 (by omega)
    obtain ⟨first, a', rfl, hfirst⟩ := List.eq_append_cons_of_mem hmem
    have hr' : '\r' ∉ first ∧ '\r' ∉ a' := by simpa using hr
    have hk : a'.count '\n' = k := by
      rw [List.count_append, List.count_eq_zero.2 hfirst, List.count_cons_self] at hfeeds
      omega
    obtain ⟨line, before, hline, hbefore, hcolumn⟩ := ih (n + 1) hr'.2 hk
    refine ⟨line, before, ?_, hbefore, ?_⟩
    · rw [List.append_assoc, List.cons_append, sourceLines_lineFeed hfirst hr'.1,
        List.getElem?_cons_succ, hline]
    · rw [Position.after_lineFeed _ hfirst, hcolumn]

/-! ## 4. Places -/

/-- The place takes up a part of one line of a text: what stands before it in the line, the part,
    and what stands behind it. -/
structure OnLine (cs : List Char) (s : Span) (before code after : List Char) : Prop where
  line : ∃ line, (sourceLines cs)[s.start.line - 1]? = some line ∧
    withoutLineEnd line = before ++ (code ++ after)
  solid : Solid code
  start_line : 1 ≤ s.start.line
  start_column : s.start.column = byteLength before
  stop : s.stop = ⟨s.start.line, byteLength before + byteLength code⟩

end Text

/-- **A part of a text that begins and ends on one line stands in a source line**, at its place. -/
theorem Stands.exists_onLine {cs : List Char} {s : Span}
    (h : Stands ⟨1, 0⟩ (Lexer.unifyLineEnds cs) s) (hline : s.start.line = s.stop.line) :
    ∃ before code after, OnLine cs s before code after := by
  obtain ⟨text, code, rest, htext, hsolid, rfl⟩ := h
  have hreturn : '\r' ∉ text ∧ '\r' ∉ code ∧ '\r' ∉ rest := by
    have hall := notMem_unifyLineEnds cs
    rw [htext] at hall
    simpa [not_or] using hall
  have hfeed : '\n' ∉ code := by
    simp only [Position.line_after, List.count_append] at hline
    exact List.count_eq_zero.1 (by omega)
  obtain ⟨line, before, hline, hbefore, hcolumn⟩ := exists_sourceLine 1 hreturn.1
    (List.append_ne_nil_of_left_ne_nil hsolid.ne_nil rest)
  rw [withoutLineEnd_append hfeed hreturn.2.1] at hbefore
  refine ⟨before, code, withoutLineEnd rest, ?_, hsolid, ?_, hcolumn, ?_⟩
  · have hlines := congrArg (·[text.count '\n']?) (map_withoutLineEnd_unifyLineEnds cs)
    simp only [List.getElem?_map, htext, hline, Option.map_some] at hlines
    obtain ⟨line', hline', hsame⟩ := Option.map_eq_some_iff.1 hlines.symm
    refine ⟨line', ?_, hsame.trans hbefore⟩
    rw [Position.line_after, Nat.add_sub_cancel_left, hline']
  · simp only [Position.line_after]
    omega
  · simp only [Position.after_append, Position.after_of_no_lineFeed _ hfeed, hcolumn]

end VisualScale
