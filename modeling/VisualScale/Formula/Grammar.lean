import VisualScale.Formula.Lexer
import VisualScale.Formula.Phrase
import VisualScale.Formula.Template

/-!
# The grammar of the wider language

The expressions that phrases tell apart: conditionals, logic, comparisons, bit and arithmetic
operators, signs, powers, calls with all kinds of arguments, members, subscripts, displays,
comprehensions, functions without names, texts and templates. `Phrase.read` reads the one phrase
that words write, if they write one.

Every rule is a plain definition that calls the six recursive rules (`Rule`) through a parameter;
`run` closes the circle, going one rule deeper for each unit of a measure that the length of the
text gives.
-/

namespace VisualScale

namespace Grammar

/-! ## 1. Cursors -/

/-- Where a reader stands: behind a position, before words. -/
structure Cursor where
  stop : Position
  rest : List Token

/-- A reader, which takes words or fails. -/
abbrev Reader (α : Type) := StateT Cursor Option α

/-- No phrase goes on like this. -/
def refuse {α : Type} : Reader α := fun _ => none

/-- How a word that is no name, number or text is written. -/
def spelling : Lexeme → Option String
  | .mark .plus => some "+"
  | .mark .minus => some "-"
  | .mark .times => some "*"
  | .mark .over => some "/"
  | .mark .dot => some "."
  | .mark .comma => some ","
  | .mark .opening => some "("
  | .mark .closing => some ")"
  | .other (.keyword word) => some word
  | .other (.sign text) => some text
  | _ => none

/-- The next word. -/
def peek : Reader (Option Lexeme) := do return (← get).rest.head?.map Token.lexeme

/-- The word behind the next one. -/
def peekSecond : Reader (Option Lexeme) := do return (← get).rest[1]?.map Token.lexeme

/-- A name comes next, and a word that is written so behind it. -/
def nameBefore (text : String) : Reader Bool := do
  match ← peek with
  | some (.name _) => return ((← peekSecond).bind spelling) == some text
  | _ => return false

/-- The next word is written so. -/
def at? (text : String) : Reader Bool := do
  return ((← peek).bind spelling) == some text

/-- One of the spellings is that of the next word, or no word is left. -/
def atEnd (texts : List String) : Reader Bool := do
  match ← peek with
  | none => return true
  | some l => return (spelling l).any texts.contains

/-- The next word is taken. -/
def advance : Reader Unit := fun c =>
  match c.rest with
  | t :: rest => some ((), ⟨t.span.stop, rest⟩)
  | [] => none

/-- The next word is taken if it is written so. -/
def accept (text : String) : Reader Bool := do
  if ← at? text then advance; return true else return false

/-- The next word is taken if it has a place there and is written so. -/
def acceptWhere (place : Bool) (text : String) : Reader Bool :=
  if place then accept text else return false

/-- The next word is taken; it must be written so. -/
def expect (text : String) : Reader Unit := do
  if ← accept text then return () else refuse

/-- The name that comes next is taken. -/
def expectName : Reader String := do
  match ← peek with
  | some (.name id) => advance; return id
  | _ => refuse

/-- Where the next word begins. -/
def here : Reader Position := do
  let c ← get
  return (c.rest.head?.map fun t => t.span.start).getD c.stop

/-- The place from a position up to the last word taken. -/
def spanFrom (start : Position) : Reader Span := do return ⟨start, (← get).stop⟩

/-- A form from a position up to the last word taken. -/
def formFrom (kind : String) (start : Position) : Reader Phrase := do
  return .form kind (← spanFrom start)

/-- A step taken again as long as it gives a new value, at most `bound` times. -/
def iterate {α : Type} : (bound : Nat) → (α → Reader (Option α)) → α → Reader α
  | 0, _, _ => refuse
  | bound + 1, item, a => do
    match ← item a with
    | some a => iterate bound item a
    | none => return a

/-- A step taken again as long as it gives a new value. Such steps take a word each. -/
def repeated {α : Type} (item : α → Reader (Option α)) (a : α) : Reader α := do
  iterate ((← get).rest.length + 1) item a

/-- A step taken again as long as it answers that it went on. -/
def repeatedWhile (item : Reader Bool) : Reader Unit :=
  repeated (fun _ => do return if ← item then some () else none) ()

/-! ## 2. Operators -/

/-- Sums: the spelling of each operator, its name, and whether formulas have it. -/
def sumOperators : List (String × String × Bool) := [("+", "Add", true), ("-", "Sub", true)]

/-- Products. -/
def productOperators : List (String × String × Bool) :=
  [ ("*", "Mult", true), ("/", "Div", true), ("//", "FloorDiv", false), ("%", "Mod", false)
  , ("@", "MatMult", false) ]

/-- The binary operators from the loosest level to the tightest. -/
def operatorLevels : List (List (String × String × Bool)) :=
  [ [("|", "BitOr", false)]
  , [("^", "BitXor", false)]
  , [("&", "BitAnd", false)]
  , [("<<", "LShift", false), (">>", "RShift", false)]
  , sumOperators
  , productOperators ]

/-- The operators before a value. -/
def signOperators : List (String × String × Bool) :=
  [("+", "UAdd", true), ("-", "USub", true), ("~", "Invert", false)]

/-- The entry of an operator that comes next. -/
def operatorAt (entries : List (String × String × Bool)) : Reader (Option (String × Bool)) := do
  match (← peek).bind spelling with
  | some text => return (entries.find? fun e => e.1 == text).map (·.2)
  | none => return none

/-- The signs of comparisons that are one word. -/
def comparisonSigns : List String := ["==", "!=", "<=", "<", ">=", ">", "in"]

/-- A comparison sign, of one word or two, is taken if one comes next. -/
def acceptComparison : Reader Bool := do
  match (← peek).bind spelling with
  | some text =>
    if comparisonSigns.contains text then advance; return true
    else if text == "is" then advance; let _ ← accept "not"; return true
    else if text == "not" && ((← peekSecond).bind spelling) == some "in" then
      advance; advance; return true
    else return false
  | none => return false

/-! ## 3. Rules -/

/-- The rules through which phrases nest. -/
inductive Rule where
  | expression
  | disjunction
  | sum (levels : List (List (String × String × Bool)))
  | factor
  | atom
  | target

/-- The recursive rules, as the others see them. -/
abbrev Rules := Rule → Reader Phrase

/-- Everything that binds tighter than a comparison. -/
def bitwiseOr (self : Rules) : Reader Phrase := self (.sum operatorLevels)

/-- Operators of the first of some levels, from the left, and of the tighter ones inside. -/
def sum (self : Rules) : List (List (String × String × Bool)) → Reader Phrase
  | [] => self .factor
  | entries :: tighter => do
    let start ← here
    let first ← self (.sum tighter)
    repeated (fun left => do
      match ← operatorAt entries with
      | some (name, known) =>
        advance
        let right ← self (.sum tighter)
        return some (.binary name known left right (← spanFrom start))
      | none => return none) first

/-- A comparison, or a value. -/
def comparison (self : Rules) : Reader Phrase := do
  let start ← here
  let first ← bitwiseOr self
  if ← acceptComparison then
    let _ ← bitwiseOr self
    repeatedWhile do
      if ← acceptComparison then
        let _ ← bitwiseOr self
        return true
      else return false
    formFrom "Compare" start
  else return first

/-- A comparison with `not` before it, any number of times. -/
def inversion (self : Rules) : Reader Phrase := do
  let start ← here
  if ← accept "not" then
    repeatedWhile (accept "not")
    let operand ← comparison self
    return .unary "Not" false operand (← spanFrom start)
  else comparison self

/-- Phrases with a word between them: a form if the word occurs. -/
def separated (word kind : String) (item : Reader Phrase) : Reader Phrase := do
  let start ← here
  let first ← item
  if ← at? word then
    repeatedWhile do
      if ← accept word then
        let _ ← item
        return true
      else return false
    formFrom kind start
  else return first

/-- Conditions joined by `or`, and inside those by `and`. -/
def disjunction (self : Rules) : Reader Phrase :=
  separated "or" "BoolOp" (separated "and" "BoolOp" (inversion self))

/-- A value with the name of a new variable before it, or an expression. -/
def namedExpression (self : Rules) : Reader Phrase := do
  let start ← here
  if ← nameBefore ":=" then
    advance
    advance
    let _ ← self .expression
    formFrom "NamedExpr" start
  else
    let e ← self .expression
    if ← at? ":=" then refuse else return e

/-- A value to be unpacked, or one with or without a name. -/
def starredOrNamed (self : Rules) : Reader Phrase := do
  let start ← here
  if ← accept "*" then
    let _ ← bitwiseOr self
    return .unpacked (← spanFrom start)
  else namedExpression self

/-- The phrase is a value to be unpacked. -/
def isUnpacked : Phrase → Bool
  | .unpacked _ => true
  | _ => false

/-- Items with commas between them and perhaps behind them, up to a closing word, which is taken. -/
def itemsUntil (closing : String) (item : Reader Unit) : Reader Unit := do
  repeatedWhile do
    if ← at? closing then return false
    else
      item
      if ← accept "," then return true
      else if ← at? closing then return false
      else refuse
  expect closing

/-! ## 4. Comprehensions -/

/-- A comprehension goes on. -/
def atClause : Reader Bool := do return (← at? "for") || (← at? "async")

/-- The variables of a comprehension: targets with commas between them, up to `in`. -/
def targets (self : Rules) : Reader Unit := do
  let _ ← self .target
  repeatedWhile do
    if ← accept "," then
      if ← at? "in" then return false
      else
        let _ ← self .target
        return true
    else return false

/-- The clauses of a comprehension, one at least. -/
def clauses (self : Rules) : Reader Unit := do
  repeatedWhile do
    if ← atClause then
      let _ ← accept "async"
      expect "for"
      targets self
      expect "in"
      let _ ← self .disjunction
      repeatedWhile do
        if ← accept "if" then
          let _ ← self .disjunction
          return true
        else return false
      return true
    else return false

/-! ## 5. Functions without names -/

/-- How far a list of parameters has come. -/
inductive ParameterPhase where
  /-- Before every parameter that has a value of its own. -/
  | plain (slash seen : Bool)
  /-- Behind a parameter with a value of its own. -/
  | valued (slash : Bool)
  /-- Behind a star alone, which a parameter must follow. -/
  | bareStar
  /-- Behind a star and a parameter. -/
  | starred
  /-- Behind two stars and a parameter, where nothing may follow. -/
  | closed
  deriving DecidableEq

/-- One parameter, and what may follow it. -/
def parameter (self : Rules) (phase : ParameterPhase) : Reader ParameterPhase := do
  if ← accept "/" then
    match phase with
    | .plain false true => return .plain true true
    | .valued false => return .valued true
    | _ => refuse
  else if ← accept "**" then
    let _ ← expectName
    match phase with
    | .bareStar | .closed => refuse
    | _ => return .closed
  else if ← accept "*" then
    match phase with
    | .plain _ _ | .valued _ =>
      if ← at? "," then return .bareStar
      else
        let _ ← expectName
        return .starred
    | _ => refuse
  else
    let _ ← expectName
    let hasValue ← accept "="
    if hasValue then
      let _ ← self .expression
    match phase with
    | .plain slash _ => return if hasValue then .valued slash else .plain slash true
    | .valued slash => if hasValue then return .valued slash else refuse
    | .bareStar | .starred => return .starred
    | .closed => refuse

/-- A function without a name. -/
def lambda (self : Rules) : Reader Phrase := do
  let start ← here
  expect "lambda"
  let phase ← repeated (fun phase => do
    if ← at? ":" then return none
    else
      let phase ← parameter self phase
      if ← accept "," then return some phase
      else if ← at? ":" then return some phase
      else refuse) (ParameterPhase.plain false false)
  if phase = .bareStar then refuse
  expect ":"
  let _ ← self .expression
  formFrom "Lambda" start

/-- A conditional, a function without a name, or a condition. -/
def expression (self : Rules) : Reader Phrase := do
  if ← at? "lambda" then lambda self
  else
    let start ← here
    let first ← self .disjunction
    if ← accept "if" then
      let _ ← self .disjunction
      expect "else"
      let _ ← self .expression
      formFrom "IfExp" start
    else return first

/-! ## 6. Calls and subscripts -/

/-- How far a list of arguments has come: plain ones, ones with names, or ones behind two stars. -/
inductive ArgumentPhase where
  | plain
  | named
  | doubled
  deriving DecidableEq

/-- The arguments read so far. -/
structure Arguments where
  phase : ArgumentPhase
  args : List Phrase
  keywords : Bool

/-- One argument. -/
def argument (self : Rules) (a : Arguments) : Reader Arguments := do
  let start ← here
  if ← accept "**" then
    let _ ← self .expression
    return { a with phase := .doubled, keywords := true }
  else if ← accept "*" then
    if a.phase = .doubled then refuse
    let _ ← self .expression
    return { a with args := a.args ++ [.unpacked (← spanFrom start)] }
  else if ← nameBefore "=" then
    advance
    advance
    let _ ← self .expression
    return { a with
      phase := if a.phase = .plain then .named else a.phase, keywords := true }
  else
    if a.phase ≠ .plain then refuse
    let e ← namedExpression self
    return { a with args := a.args ++ [e] }

/-- The arguments of a call whose bracket opens at a position and has been taken; the closing
    bracket is taken as well. A comprehension may stand for all of them. -/
def arguments (self : Rules) (opening : Position) : Reader Arguments := do
  let nothing : Arguments := ⟨.plain, [], false⟩
  if ← accept ")" then return nothing
  let first ← argument self nothing
  let plainFirst := match first.args with
    | [e] => !isUnpacked e && !first.keywords
    | _ => false
  if plainFirst && (← atClause) then
    clauses self
    expect ")"
    return { nothing with args := [← formFrom "GeneratorExp" opening] }
  else
    let all ← repeated (fun a => do
      if ← accept "," then
        if ← at? ")" then return none
        else return some (← argument self a)
      else return none) first
    expect ")"
    return all

/-- An expression, unless one of the spellings comes next. -/
def optionalExpression (self : Rules) (endings : List String) : Reader Unit := do
  if ← atEnd endings then return ()
  else
    let _ ← self .expression
    return ()

/-- A subscript: a value, or bounds with colons between them. -/
def slice (self : Rules) : Reader Unit := do
  if ← accept "*" then
    let _ ← self .expression
    return ()
  else if !(← at? ":") then
    let named ← nameBefore ":="
    let _ ← namedExpression self
    if named && (← at? ":") then refuse
  if ← accept ":" then
    optionalExpression self [":", ",", "]"]
    if ← accept ":" then optionalExpression self [",", "]"]

/-- The subscripts behind a bracket that has been taken, and the closing bracket. -/
def slices (self : Rules) : Reader Unit := do
  if ← at? "]" then refuse
  itemsUntil "]" (slice self)

/-- How a primary ends. -/
inductive PrimaryEnd where
  | atom
  | member
  | call

/-- An atom with everything that follows it directly: members, calls and subscripts. -/
def primaryWithEnd (self : Rules) : Reader (Phrase × PrimaryEnd) := do
  let start ← here
  let first ← self .atom
  repeated (fun (value, _) => do
    let opening ← here
    if ← accept "." then
      let field ← expectName
      return some (.member value field (← spanFrom start), .member)
    else if ← accept "(" then
      let a ← arguments self opening
      return some (.call value a.args a.keywords (← spanFrom start), .call)
    else if ← accept "[" then
      slices self
      return some (← formFrom "Subscript" start, .member)
    else return none) (first, PrimaryEnd.atom)

/-- A primary, perhaps awaited. -/
def awaited (self : Rules) : Reader Phrase := do
  let start ← here
  if ← accept "await" then
    let _ ← primaryWithEnd self
    formFrom "Await" start
  else return (← primaryWithEnd self).1

/-- A value with signs before it, or raised to a power. -/
def factor (self : Rules) : Reader Phrase := do
  let start ← here
  match ← operatorAt signOperators with
  | some (name, known) =>
    advance
    let operand ← self .factor
    return .unary name known operand (← spanFrom start)
  | none =>
    let base ← awaited self
    if ← accept "**" then
      let power ← self .factor
      return .binary "Pow" false base power (← spanFrom start)
    else return base

/-! ## 7. Targets of comprehensions -/

/-- A name, or targets in brackets: a variable of a comprehension that is no member of anything. -/
def bareTarget (self : Rules) : Reader Unit := do
  if ← accept "(" then
    if ← accept ")" then return ()
    let starred ← at? "*"
    let _ ← self .target
    if ← accept "," then itemsUntil ")" (do let _ ← self .target)
    else if starred then refuse
    else expect ")"
  else if ← accept "[" then itemsUntil "]" (do let _ ← self .target)
  else
    let _ ← expectName

/-- A variable of a comprehension, or a member or subscript of any primary in its place. A star may
    stand before it. -/
def target (self : Rules) : Reader Phrase := do
  let start ← here
  let _ ← accept "*"
  if ← at? "*" then refuse
  let before ← get
  match (← primaryWithEnd self).2 with
  | .member => formFrom "Target" start
  | .call => refuse
  | .atom =>
    set before
    bareTarget self
    formFrom "Target" start

/-! ## 8. Atoms -/

/-- What a generator gives, behind the word for it. -/
def yielded (self : Rules) : Reader Phrase := do
  let start ← here
  expect "yield"
  if ← accept "from" then
    let _ ← self .expression
    formFrom "YieldFrom" start
  else
    repeatedWhile do
      if ← atEnd [")"] then return false
      else
        if ← accept "*" then
          let _ ← bitwiseOr self
        else
          let _ ← self .expression
        if ← accept "," then return true
        else if ← atEnd [")"] then return false
        else refuse
    formFrom "Yield" start

/-- What stands in round brackets: a value, nothing, values with commas, or a comprehension. -/
def inRound (self : Rules) : Reader Phrase := do
  let start ← here
  expect "("
  if ← accept ")" then formFrom "Tuple" start
  else if ← at? "yield" then
    let y ← yielded self
    expect ")"
    return y
  else
    let first ← starredOrNamed self
    if ← accept "," then
      itemsUntil ")" (do let _ ← starredOrNamed self)
      formFrom "Tuple" start
    else if isUnpacked first then refuse
    else if ← atClause then
      clauses self
      expect ")"
      formFrom "GeneratorExp" start
    else
      expect ")"
      return first

/-- What stands in square brackets: a list, or a comprehension. -/
def inSquare (self : Rules) : Reader Phrase := do
  let start ← here
  expect "["
  if ← accept "]" then formFrom "List" start
  else
    let first ← starredOrNamed self
    if !isUnpacked first && (← atClause) then
      clauses self
      expect "]"
      formFrom "ListComp" start
    else
      if ← accept "," then itemsUntil "]" (do let _ ← starredOrNamed self) else expect "]"
      formFrom "List" start

/-- An entry of a table: another table to be unpacked, or a key and a value. -/
def entry (self : Rules) : Reader Unit := do
  if ← accept "**" then
    let _ ← bitwiseOr self
  else
    let _ ← self .expression
    expect ":"
    let _ ← self .expression

/-- What stands in braces: a table, a set, or a comprehension of either. -/
def inBraces (self : Rules) : Reader Phrase := do
  let start ← here
  expect "\x7b"
  if ← accept "\x7d" then formFrom "Dict" start
  else if ← at? "**" then
    itemsUntil "\x7d" (entry self)
    formFrom "Dict" start
  else
    let named ← nameBefore ":="
    let first ← starredOrNamed self
    if ← acceptWhere (!isUnpacked first && !named) ":" then
      let _ ← self .expression
      if ← atClause then
        clauses self
        expect "\x7d"
        formFrom "DictComp" start
      else
        if ← accept "," then itemsUntil "\x7d" (entry self) else expect "\x7d"
        formFrom "Dict" start
    else if !isUnpacked first && (← atClause) then
      clauses self
      expect "\x7d"
      formFrom "SetComp" start
    else
      if ← accept "," then itemsUntil "\x7d" (do let _ ← starredOrNamed self)
      else expect "\x7d"
      formFrom "Set" start

/-- A text is an expression of its own, in the round brackets that a template puts around it. -/
def acceptsText (self : Rules) (text : List Char) : Bool :=
  match Lexer.lex ('(' :: (text ++ [')'])) with
  | some tokens =>
    match self .atom ⟨⟨1, 0⟩, tokens⟩ with
    | some (_, c) => c.rest.isEmpty
    | none => false
  | none => false

/-- What texts side by side have shown so far. -/
structure Texts where
  bytes : Option Bool
  template : Bool

/-- One more text; texts of characters and of bytes do not go together. -/
def Texts.add (t : Texts) (bytes template : Bool) : Option Texts :=
  match t.bytes with
  | some b => if b = bytes then some { t with template := t.template || template } else none
  | none => some ⟨some bytes, template⟩

/-- Texts side by side, which are one. -/
def texts (self : Rules) : Reader Phrase := do
  let start ← here
  let all ← repeated (fun (t : Texts) => do
    match ← peek with
    | some (.other (.text bytes)) =>
      advance
      match t.add bytes false with
      | some t => return some t
      | none => refuse
    | some (.other (.template raw body)) =>
      advance
      if !Template.fits (acceptsText self) raw body then refuse
      match t.add false true with
      | some t => return some t
      | none => refuse
    | _ => return none) (⟨none, false⟩ : Texts)
  if all.template then formFrom "JoinedStr" start else return .constant (← spanFrom start)

/-- The spellings of constants that are no numbers. -/
def constantWords : List String := ["True", "False", "None", "..."]

/-- A word, or something in brackets. -/
def atom (self : Rules) : Reader Phrase := do
  let start ← here
  match ← peek with
  | some (.name id) => advance; return .name id (← spanFrom start)
  | some (.whole n) => advance; return .whole n (← spanFrom start)
  | some (.real d) => advance; return .real d (← spanFrom start)
  | some (.other .imaginary) => advance; return .constant (← spanFrom start)
  | some (.other (.text _)) | some (.other (.template ..)) => texts self
  | some l =>
    match spelling l with
    | some "(" => inRound self
    | some "[" => inSquare self
    | some "\x7b" => inBraces self
    | some word =>
      if constantWords.contains word then
        advance
        return .constant (← spanFrom start)
      else refuse
    | none => refuse
  | none => refuse

/-! ## 9. The circle closed -/

/-- A recursive rule in terms of all of them. -/
def rule (self : Rules) : Rule → Reader Phrase
  | .expression => expression self
  | .disjunction => disjunction self
  | .sum levels => sum self levels
  | .factor => factor self
  | .atom => atom self
  | .target => target self

/-- The recursive rules, nested at most `depth` deep. -/
def run : (depth : Nat) → Rules
  | 0, _ => refuse
  | depth + 1, r => rule (run depth) r

/-- Expressions with commas between them, which are one tuple, or a single one. -/
def whole (self : Rules) : Reader Phrase := do
  let start ← here
  let first ← self .expression
  if ← at? "," then
    repeatedWhile do
      if ← accept "," then
        if ← atEnd [] then return false
        else
          let _ ← self .expression
          return true
      else return false
    formFrom "Tuple" start
  else return first

end Grammar

/-- The phrase that the words of a text of some length write. No text nests rules deeper than a
    dozen times its length. -/
def Phrase.read (length : Nat) (tokens : List Token) : Option Phrase :=
  match Grammar.whole (Grammar.run (12 * (length + 2))) ⟨⟨1, 0⟩, tokens⟩ with
  | some (phrase, c) => if c.rest.isEmpty then some phrase else none
  | none => none

end VisualScale
