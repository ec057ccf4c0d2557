import ClientPackager.TypeExpr.Basic
import ClientPackager.TypeExpr.Token

set_option autoImplicit false

namespace ClientPackager.TypeExpr

-- The language of type expressions, without a reader: which characters spell
-- which tokens, and which tokens make up which tree.
def marks : List (Char × Token) :=
  [('(', .leftParen), (')', .rightParen), ('<', .leftAngle), ('>', .rightAngle), ('[', .leftBracket),
    (']', .rightBracket), (',', .comma), ('?', .question)]

-- No word goes on in front of such characters.
def EndsWord (cs : List Char) : Prop := ∀ c, cs.head? = some c → Token.isWordChar c = false

inductive Spells : List Char → List Token → Prop where
  | nil : Spells [] []
  | blank (c : Char) (cs : List Char) (ts : List Token) (white : Text.isBlank c = true) (rest : Spells cs ts) :
      Spells (c :: cs) ts
  | mark (c : Char) (token : Token) (cs : List Char) (ts : List Token) (listed : (c, token) ∈ marks)
      (rest : Spells cs ts) : Spells (c :: cs) (token :: ts)
  | word (word cs : List Char) (ts : List Token) (present : word ≠ [])
      (own : ∀ c ∈ word, Token.isWordChar c = true) (maximal : EndsWord cs) (rest : Spells cs ts) :
      Spells (word ++ cs) (.word (String.ofList word) :: ts)

def brackets : Nat → List Token
  | 0 => []
  | dims + 1 => .leftBracket :: .rightBracket :: brackets dims

-- A wildcard is a tree of its own only without a bound; with one it is the
-- tree of the bound. Neither it nor the empty tuple has dimensions.
mutual
inductive Derives : List Token → TypeExpr → Prop where
  | unit : Derives [.leftParen, .rightParen] ⟨"()", [], 0⟩
  | wildcard : Derives [.question] ⟨"java.lang.Object", [], 0⟩
  | bounded (bound : String) (ts : List Token) (expr : TypeExpr) (known : bound = "extends" ∨ bound = "super")
      (inner : Derives ts expr) : Derives (.question :: .word bound :: ts) expr
  | plain (name : String) (dims : Nat) : Derives (.word name :: brackets dims) ⟨name, [], dims⟩
  | generic (name : String) (ts : List Token) (args : List TypeExpr) (dims : Nat) (inner : DerivesAll ts args) :
      Derives (.word name :: .leftAngle :: (ts ++ .rightAngle :: brackets dims)) ⟨name, args, dims⟩
inductive DerivesAll : List Token → List TypeExpr → Prop where
  | last (ts : List Token) (arg : TypeExpr) (only : Derives ts arg) : DerivesAll ts [arg]
  | more (ts later : List Token) (arg : TypeExpr) (args : List TypeExpr) (first : Derives ts arg)
      (rest : DerivesAll later args) : DerivesAll (ts ++ .comma :: later) (arg :: args)
end

def Denotes (text : String) (expr : TypeExpr) : Prop := ∃ ts, Spells text.toList ts ∧ Derives ts expr

end ClientPackager.TypeExpr
