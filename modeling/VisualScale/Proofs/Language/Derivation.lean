import VisualScale.Proofs.Source.Reads

/-!
# The grammar of formulas

What words derive from which symbol of the grammar, and what formula they write (`Derives`):

    expr    = term {('+' | '-') term}
    term    = factor {('*' | '/') factor}
    factor  = ('+' | '-') factor | primary
    primary = atom | primary '.' NAME | callee '(' [expr {',' expr} [',']] ')'
    callee  = NAME | '(' callee ')'
    atom    = NUMBER | NAME | '(' expr ')'

A number is whole or a float, and a reserved word is no name. Operations of one level group from the
left. Nothing here says how words are read; an operand is a formula with its extent, brackets around
it included, because the place of a node begins and ends with those of its operands.

Every symbol derives one word at least (`Derives.ne_nil`). What is a name, with or without brackets,
is also a callee (`Derives.callee_of_name`), and a callee is also an atom (`Derives.atom_of_callee`).
-/

namespace VisualScale

open Reader (Operand Waiting callOperand operatorMark signMark)

/-! ## 1. Derivations -/

/-- The symbols of the grammar. -/
inductive Symbol where
  | expr
  | term
  | factor
  | primary
  | callee
  | atom
  deriving DecidableEq, Repr

/-- Words of pieces with a comma between them and perhaps one behind them. -/
inductive Listed : List (List Token) → List Token → Prop where
  | nil : Listed [] []
  | last (ts : List Token) : Listed [ts] ts
  | cons {ts us : List Token} {pieces : List (List Token)} {comma : Token}
      (hcomma : comma.lexeme = .mark .comma) (h : Listed pieces us) :
      Listed (ts :: pieces) (ts ++ comma :: us)

/-- Words of pieces with a comma behind each of them. -/
inductive CommaEnded : List (List Token) → List Token → Prop where
  | nil : CommaEnded [] []
  | cons {ts us : List Token} {pieces : List (List Token)} {comma : Token}
      (hcomma : comma.lexeme = .mark .comma) (h : CommaEnded pieces us) :
      CommaEnded (ts :: pieces) (ts ++ comma :: us)

theorem CommaEnded.append {ts us : List Token} {pieces pieces' : List (List Token)}
    (h : CommaEnded pieces ts) (h' : CommaEnded pieces' us) :
    CommaEnded (pieces ++ pieces') (ts ++ us) := by
  induction h with
  | nil => exact h'
  | cons hcomma _ ih =>
    rw [List.append_assoc, List.cons_append]
    exact .cons hcomma ih

/-- Pieces that end with commas, and others behind them. -/
theorem CommaEnded.listed {ts us : List Token} {pieces pieces' : List (List Token)}
    (h : CommaEnded pieces ts) (h' : Listed pieces' us) :
    Listed (pieces ++ pieces') (ts ++ us) := by
  induction h with
  | nil => exact h'
  | cons hcomma _ ih =>
    rw [List.append_assoc, List.cons_append]
    exact .cons hcomma ih

/-- The operand that is a component of another. -/
def Reader.Operand.component (o : Operand) (field : String) (stop : Position) : Operand :=
  let extent : Span := ⟨o.extent.start, stop⟩
  ⟨.component o.formula field extent, extent⟩

/-- A formula of one word. -/
def Reader.Operand.word (formula : Formula) : Operand := ⟨formula, formula.span⟩

/-- A formula in brackets. -/
def Reader.Operand.grouped (o : Operand) (opening closing : Token) : Operand :=
  ⟨o.formula, ⟨opening.span.start, closing.span.stop⟩⟩

/-- Words derive from a symbol of the grammar, and write an operand. -/
inductive Derives : Symbol → List Token → Operand → Prop where
  | term {ts : List Token} {o : Operand} (h : Derives .term ts o) : Derives .expr ts o
  | sum {ts us : List Token} {l r : Operand} {t : Token} {op : Operator}
      (hop : op = .add ∨ op = .sub) (hl : Derives .expr ts l)
      (ht : t.lexeme = .mark (operatorMark op)) (hr : Derives .term us r) :
      Derives .expr (ts ++ t :: us) ((Waiting.mk l op).complete r)
  | factor {ts : List Token} {o : Operand} (h : Derives .factor ts o) : Derives .term ts o
  | product {ts us : List Token} {l r : Operand} {t : Token} {op : Operator}
      (hop : op = .mul ∨ op = .div) (hl : Derives .term ts l)
      (ht : t.lexeme = .mark (operatorMark op)) (hr : Derives .factor us r) :
      Derives .term (ts ++ t :: us) ((Waiting.mk l op).complete r)
  | primary {ts : List Token} {o : Operand} (h : Derives .primary ts o) : Derives .factor ts o
  | signed {ts : List Token} {o : Operand} {t : Token} {sign : Sign}
      (ht : t.lexeme = .mark (signMark sign)) (h : Derives .factor ts o) :
      Derives .factor (t :: ts) (o.signed sign t.span.start)
  | atom {ts : List Token} {o : Operand} (h : Derives .atom ts o) : Derives .primary ts o
  | component {ts : List Token} {o : Operand} {dot t : Token} {field : String}
      (h : Derives .primary ts o) (hdot : dot.lexeme = .mark .dot) (ht : t.lexeme = .name field) :
      Derives .primary (ts ++ [dot, t]) (o.component field t.span.stop)
  | call {ts us : List Token} {function : String} {span extent : Span} {opening closing : Token}
      {args : List (List Token × Operand)}
      (hcallee : Derives .callee ts ⟨.name function span, extent⟩)
      (hopening : opening.lexeme = .mark .opening) (hargs : ∀ a ∈ args, Derives .expr a.1 a.2)
      (hlisted : Listed (args.map Prod.fst) us) (hclosing : closing.lexeme = .mark .closing) :
      Derives .primary (ts ++ opening :: (us ++ [closing]))
        (callOperand function (args.map fun a => a.2.formula) extent.start closing.span.stop)
  | calleeName {t : Token} {id : String} (ht : t.lexeme = .name id) :
      Derives .callee [t] (.word (.name id t.span))
  | calleeGroup {ts : List Token} {o : Operand} {opening closing : Token}
      (hopening : opening.lexeme = .mark .opening) (h : Derives .callee ts o)
      (hclosing : closing.lexeme = .mark .closing) :
      Derives .callee (opening :: (ts ++ [closing])) (o.grouped opening closing)
  | whole {t : Token} {n : Nat} (ht : t.lexeme = .whole n) :
      Derives .atom [t] (.word (.whole n t.span))
  | real {t : Token} {d : Double} (ht : t.lexeme = .real d) :
      Derives .atom [t] (.word (.real d t.span))
  | name {t : Token} {id : String} (ht : t.lexeme = .name id) :
      Derives .atom [t] (.word (.name id t.span))
  | group {ts : List Token} {o : Operand} {opening closing : Token}
      (hopening : opening.lexeme = .mark .opening) (h : Derives .expr ts o)
      (hclosing : closing.lexeme = .mark .closing) :
      Derives .atom (opening :: (ts ++ [closing])) (o.grouped opening closing)

/-! ## 2. What every derivation has -/

/-- Every symbol derives one word at least. -/
theorem Derives.ne_nil {symbol : Symbol} {ts : List Token} {o : Operand}
    (h : Derives symbol ts o) : ts ≠ [] := by
  induction h with
  | term _ ih | factor _ ih | primary _ ih | atom _ ih => exact ih
  | sum | product | component | call =>
    exact List.append_ne_nil_of_right_ne_nil _ (List.cons_ne_nil _ _)
  | signed | calleeName | calleeGroup | whole | real | name | group => exact List.cons_ne_nil _ _

/-- What is a name, with or without brackets, can be called. -/
theorem Derives.callee_of_name {symbol : Symbol} {ts : List Token} {o : Operand}
    (h : Derives symbol ts o) {function : String} {span : Span}
    (ho : o.formula = .name function span) : Derives .callee ts o := by
  induction h with
  | term _ ih | factor _ ih | primary _ ih | atom _ ih => exact ih ho
  | calleeName ht | name ht => exact .calleeName ht
  | calleeGroup hopening _ hclosing ih | group hopening _ hclosing ih =>
    exact .calleeGroup hopening (ih ho) hclosing
  | sum | product | signed | component | call | whole | real => cases ho

/-- What can be called can stand alone. -/
theorem Derives.atom_of_callee {ts : List Token} {o : Operand} (h : Derives .callee ts o) :
    Derives .atom ts o := by
  generalize hs : Symbol.callee = symbol at h
  induction h with
  | calleeName ht => exact .name ht
  | calleeGroup hopening _ hclosing ih =>
    exact .group hopening (.term (.factor (.primary (.atom (ih hs))))) hclosing
  | _ => cases hs

end VisualScale
