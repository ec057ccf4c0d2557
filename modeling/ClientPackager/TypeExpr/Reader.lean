import ClientPackager.Fault
import ClientPackager.TypeExpr.Basic
import ClientPackager.TypeExpr.Token

set_option autoImplicit false

namespace ClientPackager.TypeExpr

inductive Defect where
  | unclosedParen
  | noName
  | unclosedArgs
  | unclosedBracket
  | trailing
deriving DecidableEq, Repr

def Defect.reason : Defect → String
  | .unclosedParen => "expected ')'"
  | .noName => "expected type name"
  | .unclosedArgs => "expected ',' or '>'"
  | .unclosedBracket => "expected ']'"
  | .trailing => "unexpected trailing input"

structure Mismatch where
  defect : Defect
  rest : List Token
deriving DecidableEq, Repr

def readDims : List Token → Except Mismatch (Nat × List Token)
  | .leftBracket :: .rightBracket :: rest => do
    let (dims, rest) ← readDims rest
    return (dims + 1, rest)
  | .leftBracket :: rest => .error ⟨.unclosedBracket, rest⟩
  | rest => .ok (0, rest)

def isBoundWord (text : String) : Bool := text == "extends" || text == "super"

-- expr := `(` `)` | `?` | `?` (`extends` | `super`) expr
--       | word [`<` expr (`,` expr)* `>`] (`[` `]`)*
-- A wildcard is read as its bound. What cannot be read is reported at the first token
-- that does not fit.
mutual
def readExpr : Nat → List Token → Except Mismatch (TypeExpr × List Token)
  | 0, ts => .error ⟨.noName, ts⟩
  | fuel + 1, ts =>
    match ts with
    | .leftParen :: .rightParen :: rest => .ok (unit, rest)
    | .leftParen :: rest => .error ⟨.unclosedParen, rest⟩
    | .question :: .word bound :: rest =>
      if isBoundWord bound then readExpr fuel rest else .ok (anything, .word bound :: rest)
    | .question :: rest => .ok (anything, rest)
    | .word name :: .leftAngle :: rest => do
      let (args, rest) ← readArgs fuel rest
      let (dims, rest) ← readDims rest
      return (⟨name, args, dims⟩, rest)
    | .word name :: rest => do
      let (dims, rest) ← readDims rest
      return (⟨name, [], dims⟩, rest)
    | _ => .error ⟨.noName, ts⟩
def readArgs : Nat → List Token → Except Mismatch (List TypeExpr × List Token)
  | 0, ts => .error ⟨.noName, ts⟩
  | fuel + 1, ts => do
    let (arg, rest) ← readExpr fuel ts
    match rest with
    | .comma :: rest =>
      let (args, rest) ← readArgs fuel rest
      return (arg :: args, rest)
    | .rightAngle :: rest => return ([arg], rest)
    | _ => .error ⟨.unclosedArgs, rest⟩
end

-- Every second call consumes a token.
def ofTokens (ts : List Token) : Except Mismatch TypeExpr := do
  let (expr, rest) ← readExpr (2 * ts.length + 2) ts
  if rest = [] then return expr else .error ⟨.trailing, rest⟩

structure SyntaxError where
  defect : Defect
  offset : Nat
deriving DecidableEq, Repr

def SyntaxError.reason (error : SyntaxError) : String :=
  s!"{error.defect.reason} at offset {error.offset}"

def offsetOfLast (count : Nat) (lexemes : List Lexeme) (size : Nat) : Nat :=
  ((lexemes.drop (lexemes.length - count)).head?.map Lexeme.offset).getD size

def read (text : String) : Except SyntaxError TypeExpr :=
  let lexemes := Lexeme.ofText text
  match ofTokens (lexemes.map Lexeme.token) with
  | .ok expr => .ok expr
  | .error mismatch =>
    .error ⟨mismatch.defect, offsetOfLast mismatch.rest.length lexemes (byteSize text.toList)⟩

def parse (text : String) : Outcome TypeExpr :=
  (read text).mapError fun error => .invalidTypeExpression text error.reason

end ClientPackager.TypeExpr
