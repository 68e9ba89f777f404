import VisualScale.Fault
import VisualScale.Text.Blank
import VisualScale.Text.Lines

/-!
# Diagnostics

A message about a formula says where in the formula the trouble lies: a `Location` line with the
column (and the line, if the formula has several), a `Code` line with the text of the place, and the
line of the formula with carets under the place. A message about a formula as a whole shows only the
formula.

Columns of a place count bytes; the carets stand at the same columns counted in characters, and stay
within the line that is shown.
-/

namespace VisualScale

/-! ## 1. Places -/

/-- A position in a text: the line, counted from one, and the byte column, counted from zero. -/
structure Position where
  line : Nat
  column : Nat
  deriving DecidableEq, Repr, Inhabited

/-- From one position up to another. -/
structure Span where
  start : Position
  stop : Position
  deriving DecidableEq, Repr, Inhabited

/-- A place that a message points at; where it ends need not be known. -/
structure Place where
  start : Position
  stop : Option Position
  deriving DecidableEq, Repr

/-- A span as a place with a known end. -/
def Span.place (s : Span) : Place := ⟨s.start, some s.stop⟩

/-- The text between two positions of a source, taken from its source lines; nothing if the source
    has no such lines. -/
def codeBetween (source : String) (start stop : Position) : Option (List Char) :=
  let lines := Text.sourceLines source.toList
  match lines[start.line - 1]?, lines[stop.line - 1]? with
  | some first, some last =>
    if start.line = stop.line then some (Text.cut start.column stop.column first)
    else
      let between := (lines.take (stop.line - 1)).drop start.line
      some (Text.dropBytes start.column first ++ between.flatten ++
        Text.takeBytes stop.column last)
  | _, _ => none

/-! ## 2. The lines of a diagnostic -/

/-- What stands before the shown line of a formula with one line. -/
def formulaLabel : String := "Expression: "

/-- The line of a source with carets below a part of it. -/
def pointer (source : String) (line start : Int) (stop : Option Int) : List String :=
  let shown := Text.shownLines source.toList
  let lines := if shown = [] then [source.toList] else shown
  if line < 1 then []
  else match lines[line.toNat - 1]? with
    | none => []
    | some text =>
      let start := max 0 (min start text.length)
      let width := match stop with
        | some stop => if start < stop then stop - start else 1
        | none => 1
      let number := toString line
      let label := if lines.length = 1 then formulaLabel else s!"Expression (line {number}): "
      [ label ++ .ofList text
      , .ofList (List.replicate (label.length + start.toNat) ' ' ++
          List.replicate width.toNat '^') ]

/-- The lines that describe a part of a source: where it is, what stands there, and the source with
    carets. The line number is reported only for a source with several lines. -/
def describeSpan (source : Option String) (line start : Int) (stop : Option Int)
    (code : Option String) : List String :=
  let several : Bool := match source with
    | some text => decide (1 < (Text.shownLines text.toList).length)
    | none => false
  let column := toString (start + 1)
  let number := toString line
  let location :=
    if several then s!"Location: line {number}, column {column}" else s!"Location: column {column}"
  let codeLines := match code with
    | some code => if code = "" then [] else [s!"Code: {code}"]
    | none => []
  let pointerLines := match source with
    | some text => pointer text line start stop
    | none => []
  location :: (codeLines ++ pointerLines)

/-- The lines that describe a place. Carets mark its length only if it ends on its first line. -/
def describePlace (source : Option String) (place : Place) : List String :=
  let stop := match place.stop with
    | some stop => if stop.line = place.start.line then some (stop.column : Int) else none
    | none => none
  let code := match source, place.stop with
    | some text, some stop =>
      (codeBetween text place.start stop).map fun cs => String.ofList (Text.trim cs)
    | _, _ => none
  describeSpan source place.start.line place.start.column stop code

/-- A message with what is known of where it applies. -/
def annotate (message : String) (source : Option String) (place : Option Place) : String :=
  match place with
  | some place => message ++ "\n" ++ "\n".intercalate (describePlace source place)
  | none =>
    match source with
    | some text => message ++ "\n" ++ formulaLabel ++ text
    | none => message

/-! ## 3. Messages inside a formula -/

/-- What is being read while a message arises: the source, and the node, which may be one without a
    place. -/
structure Focus where
  source : Option String
  node : Option (Option Place)
  deriving DecidableEq, Repr

namespace Focus

/-- Nothing is being read. -/
def nothing : Focus := ⟨none, none⟩

/-- Inside a source. -/
def enterSource (f : Focus) (source : String) : Focus := { f with source := some source }

/-- Inside a node, or outside every node again. -/
def enterNode (f : Focus) (node : Option (Option Place)) : Focus := { f with node := node }

/-- A message that arises here, with the source and the node that it names itself coming first. -/
def annotate (f : Focus) (message : String) (source : Option String)
    (node : Option (Option Place)) : String :=
  VisualScale.annotate message (source.or f.source) ((node.or f.node).join)

end Focus

/-! ## 4. Failures -/

/-- Where in a formula a fault arose. -/
structure Site where
  source : String
  span : Span
  deriving DecidableEq, Repr

/-- A fault, and where in a formula it arose if it did. -/
structure Failure where
  fault : Fault
  site : Option Site
  deriving DecidableEq, Repr

namespace Failure

/-- A fault outside every formula. -/
def plain (fault : Fault) : Failure := ⟨fault, none⟩

/-- A fault at a span of a formula. Only faults of wording and typing tell where they arose. -/
def «at» (source : String) (span : Span) (fault : Fault) : Failure :=
  match fault.kind with
  | .wording | .typing => ⟨fault, some ⟨source, span⟩⟩
  | _ => ⟨fault, none⟩

/-- A failure in words, with its place. -/
def text (f : Failure) : String :=
  match f.site with
  | some site => annotate f.fault.message (some site.source) (some site.span.place)
  | none => f.fault.message

@[simp] theorem text_plain (fault : Fault) : (plain fault).text = fault.message := rfl

end Failure

/-- The words in which the reader of formulas reports trouble that it was told of by line and
    offset, both counted from one. -/
def reportedSyntaxError (message source : String) (line offset endLine endOffset : Option Int) :
    String :=
  let head := "Invalid expression syntax: " ++ message
  let given (n : Option Int) : Option Int := if n = some 0 then none else n
  match given line with
  | none => head
  | some line =>
    let start := (given offset).getD 1 - 1
    let stop := match given endOffset with
      | some stop => if endLine = some line then some (stop - 1) else none
      | none => none
    "\n".intercalate (head :: describeSpan (some source) line start stop none)

end VisualScale
