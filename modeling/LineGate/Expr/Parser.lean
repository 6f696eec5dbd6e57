import LineGate.Expr.Token
import LineGate.Expr.Syntax

/-! # Reading expressions

The grammar, from the loosest to the tightest binding:

    or         := and (('||' | 'or') and)*
    and        := not (('&&' | 'and') not)*
    not        := 'not' not | comparison
    comparison := unary (comparison-operator unary)*
    unary      := ('!' | '-') unary | operand
    operand    := number | string | literal | name | name '(' args ')'
                | '[' args ']' | '(' or ')'

All binary operators associate to the left. The keyword `not` stands below the comparisons and the
sign `!` above them; `not in` is one operator. Each function of the grammar takes the tokens that
are left and gives back an expression with the tokens behind it. Nesting is bounded by the number of
tokens, which serves as fuel.
-/

namespace LineGate

namespace Parser

/-- Reading may stop with a fault. -/
abbrev Result := Except SyntaxFault

/-- Whether a token is one of the given operators or keywords. -/
def isSign (texts : List String) (t : Token) : Bool :=
  (t.kind == .op || t.kind == .keyword) && texts.contains t.text

/-- Pass over the next token if it is one of the given signs. -/
def accept (texts : List String) : List Token → Option (List Token)
  | t :: rest => if isSign texts t then some rest else none
  | [] => none

/-- Pass over the sign that has to come next. -/
def expect (wanted : String) (ts : List Token) : Result (List Token) :=
  match accept [wanted] ts with
  | some rest => .ok rest
  | none => match ts with
    | [] => .error (.missing wanted)
    | t :: _ => .error (.mismatch wanted t.text t.pos)

/-- The comparison operators of a single token. -/
def comparisonSigns : List (String × Comparison) :=
  [("===", .strictEq), ("!==", .strictNe), ("==", .looseEq), ("!=", .looseNe),
    ("<", .order .less), ("<=", .order .lessEq), (">", .order .greater), (">=", .order .greaterEq),
    ("in", .member)]

/-- The comparison operator that comes next, and the tokens behind it. -/
def comparison? : List Token → Option (Comparison × List Token)
  | t :: rest =>
    if isSign ["not"] t then match rest with
      | u :: rest => if u.kind == .keyword && u.text == "in" then some (.notMember, rest) else none
      | [] => none
    else if t.kind == .op || t.kind == .keyword then
      (comparisonSigns.lookup t.text).map fun op => (op, rest)
    else none
  | [] => none

/-- The character that a backslash and a letter stand for. -/
def unescapeChar : Char → Char
  | 'n' => '\n'
  | 't' => '\t'
  | 'r' => '\r'
  | '0' => '\x00'
  | c => c

/-- Replace each backslash and the character behind it. -/
def unescape : List Char → List Char
  | '\\' :: c :: rest => unescapeChar c :: unescape rest
  | c :: rest => c :: unescape rest
  | [] => []

/-- The text between the quotes of a string token. -/
def stringValue (text : String) : String :=
  String.ofList (unescape (text.toList.drop 1).dropLast)

/-- The value of a literal name. -/
def literalValue (text : String) : Value :=
  if text = "true" ∨ text = "True" then .bool true
  else if text = "false" ∨ text = "False" then .bool false
  else .null

/-- The value of a decimal numeral. -/
def decimalValue (d : Numeral.Decimal) : Except TooManyDigits Value :=
  if d.isInteger then d.integer.map fun n => .int n else .ok (.float (d.toDouble false))

/-- The value of a numeral. -/
def numberValue (t : Token) : Result Value :=
  match Token.hexWidth? t.text.toList with
  | some _ => .ok (.int (Numeral.hexNatural (t.text.toList.drop 2)))
  | none => match Numeral.Decimal.parse? t.text.toList with
    | some d => (decimalValue d).mapError .digits
    | none => .error (.unexpected t.text t.pos)

/-- The operand of the built-in test, up to its closing bracket. -/
def definedOperand : List Token → Result (Expr × List Token)
  | [] => .error .unexpectedEnd
  | t :: rest => do
    let name ← match t.kind with
      | .name => .ok t.text
      | .string => .ok (stringValue t.text)
      | _ => .error (.definedOperand t.pos)
    let rest ← expect ")" rest
    .ok (.defined name, rest)

mutual

/-- Alternatives: conjunctions joined by `||` or `or`. -/
def orExpr : Nat → List Token → Result (Expr × List Token)
  | 0, _ => .error .unexpectedEnd
  | n + 1, ts => do
    let (left, ts) ← andExpr n ts
    orRest n left ts

/-- The alternatives that follow `left`. -/
def orRest : Nat → Expr → List Token → Result (Expr × List Token)
  | 0, _, _ => .error .unexpectedEnd
  | n + 1, left, ts => match accept ["||", "or"] ts with
    | none => .ok (left, ts)
    | some ts => do
      let (right, ts) ← andExpr n ts
      orRest n (.logical .or left right) ts

/-- Conjunctions: negations joined by `&&` or `and`. -/
def andExpr : Nat → List Token → Result (Expr × List Token)
  | 0, _ => .error .unexpectedEnd
  | n + 1, ts => do
    let (left, ts) ← notExpr n ts
    andRest n left ts

/-- The conjuncts that follow `left`. -/
def andRest : Nat → Expr → List Token → Result (Expr × List Token)
  | 0, _, _ => .error .unexpectedEnd
  | n + 1, left, ts => match accept ["&&", "and"] ts with
    | none => .ok (left, ts)
    | some ts => do
      let (right, ts) ← notExpr n ts
      andRest n (.logical .and left right) ts

/-- Negations by the keyword. -/
def notExpr : Nat → List Token → Result (Expr × List Token)
  | 0, _ => .error .unexpectedEnd
  | n + 1, ts => match accept ["not"] ts with
    | some ts => do
      let (operand, ts) ← notExpr n ts
      .ok (.not operand, ts)
    | none => comparisonExpr n ts

/-- Comparisons. -/
def comparisonExpr : Nat → List Token → Result (Expr × List Token)
  | 0, _ => .error .unexpectedEnd
  | n + 1, ts => do
    let (left, ts) ← unaryExpr n ts
    comparisonRest n left ts

/-- The comparisons that follow `left`. -/
def comparisonRest : Nat → Expr → List Token → Result (Expr × List Token)
  | 0, _, _ => .error .unexpectedEnd
  | n + 1, left, ts => match comparison? ts with
    | none => .ok (left, ts)
    | some (op, ts) => do
      let (right, ts) ← unaryExpr n ts
      comparisonRest n (.compare op left right) ts

/-- Signs in front of an operand. -/
def unaryExpr : Nat → List Token → Result (Expr × List Token)
  | 0, _ => .error .unexpectedEnd
  | n + 1, ts => match accept ["!"] ts with
    | some ts => do
      let (operand, ts) ← unaryExpr n ts
      .ok (.not operand, ts)
    | none => match accept ["-"] ts with
      | some ts => do
        let (operand, ts) ← unaryExpr n ts
        .ok (.negate operand, ts)
      | none => operandExpr n ts

/-- Operands. -/
def operandExpr : Nat → List Token → Result (Expr × List Token)
  | 0, _ => .error .unexpectedEnd
  | _, [] => .error .unexpectedEnd
  | n + 1, t :: ts => match t.kind with
    | .number => do .ok (.literal (← numberValue t), ts)
    | .string => .ok (.literal (.str (stringValue t.text)), ts)
    | .literal => .ok (.literal (literalValue t.text), ts)
    | .name => match accept ["("] ts with
      | none => .ok (.name t.text, ts)
      | some ts =>
        if t.text = "defined" then definedOperand ts
        else do
          let (args, ts) ← arguments n ")" ts
          .ok (.call t.text args, ts)
    | .op =>
      if t.text = "(" then do
        let (inner, ts) ← orExpr n ts
        let ts ← expect ")" ts
        .ok (inner, ts)
      else if t.text = "[" then do
        let (items, ts) ← arguments n "]" ts
        .ok (.list items, ts)
      else .error (.unexpected t.text t.pos)
    | .keyword => .error (.unexpected t.text t.pos)

/-- A list of expressions between commas, up to the closing bracket. -/
def arguments : Nat → String → List Token → Result (List Expr × List Token)
  | 0, _, _ => .error .unexpectedEnd
  | n + 1, closing, ts => match accept [closing] ts with
    | some ts => .ok ([], ts)
    | none => do
      let (first, ts) ← orExpr n ts
      let (others, ts) ← argumentsRest n closing ts
      .ok (first :: others, ts)

/-- The expressions behind further commas. -/
def argumentsRest : Nat → String → List Token → Result (List Expr × List Token)
  | 0, _, _ => .error .unexpectedEnd
  | n + 1, closing, ts => match accept [","] ts with
    | some ts => do
      let (next, ts) ← orExpr n ts
      let (others, ts) ← argumentsRest n closing ts
      .ok (next :: others, ts)
    | none => do
      let ts ← expect closing ts
      .ok ([], ts)

end

/-- Fuel that suffices for a list of tokens: every token is passed after at most seven calls. -/
def fuel (ts : List Token) : Nat := 8 * (ts.length + 1)

/-- **The expression made of all the tokens**. -/
def ofTokens (ts : List Token) : Except SyntaxFault Expr :=
  if ts.isEmpty then .error .empty
  else match orExpr (fuel ts) ts with
    | .error fault => .error fault
    | .ok (e, []) => .ok e
    | .ok (_, t :: _) => .error (.unexpected t.text t.pos)

end Parser

/-- The expression that a source text denotes; positions in faults refer to this text. -/
def Expr.ofSource (source : String) : Except SyntaxFault Expr :=
  match Token.tokenize source with
  | .error stray => .error (.stray stray.char stray.pos)
  | .ok ts => Parser.ofTokens ts

/-- **Read a condition**: blanks around it do not count. -/
def Expr.parse (condition : String) : Except SyntaxFault Expr := Expr.ofSource (trimmed condition)

end LineGate
