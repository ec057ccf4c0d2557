import ClientPackager.Text.Alphanumeric
import ClientPackager.Text.Basic

set_option autoImplicit false

namespace ClientPackager.TypeExpr

inductive Token where
  | leftParen | rightParen
  | leftAngle | rightAngle
  | leftBracket | rightBracket
  | comma
  | question
  | word (text : String)
  | stray (c : Char)
deriving DecidableEq, Repr

namespace Token

def isWordChar (c : Char) : Bool := Text.isAlphanumeric c || c == '_' || c == '.' || c == '$'

def ofChar (c : Char) : Token :=
  if c = '(' then leftParen
  else if c = ')' then rightParen
  else if c = '<' then leftAngle
  else if c = '>' then rightAngle
  else if c = '[' then leftBracket
  else if c = ']' then rightBracket
  else if c = ',' then comma
  else if c = '?' then question
  else stray c

end Token

structure Lexeme where
  token : Token
  offset : Nat
deriving DecidableEq, Repr

def byteSize (cs : List Char) : Nat := total (cs.map Char.utf8Size)

namespace Lexeme

def ofWord (offset : Nat) (word : List Char) : List Lexeme :=
  if word = [] then [] else [⟨.word (String.ofList word.reverse), offset - byteSize word⟩]

-- The lexemes of a text that starts at an offset, after the characters of a word in
-- reverse.
def scan (offset : Nat) (word : List Char) : List Char → List Lexeme
  | [] => ofWord offset word
  | c :: rest =>
    if Token.isWordChar c then scan (offset + c.utf8Size) (c :: word) rest
    else if Text.isBlank c then ofWord offset word ++ scan (offset + c.utf8Size) [] rest
    else ofWord offset word ++ ⟨Token.ofChar c, offset⟩ :: scan (offset + c.utf8Size) [] rest

-- Blanks only part the tokens of an expression; a word is as long as it can be.
def ofText (text : String) : List Lexeme := scan 0 [] text.toList

end Lexeme
end ClientPackager.TypeExpr
