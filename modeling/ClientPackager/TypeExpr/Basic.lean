import ClientPackager.Text.Split

set_option autoImplicit false

namespace ClientPackager

structure TypeExpr where
  name : String
  args : List TypeExpr
  dims : Nat
deriving Repr, Inhabited

namespace TypeExpr

def unit : TypeExpr := ⟨"()", [], 0⟩

def anything : TypeExpr := ⟨"java.lang.Object", [], 0⟩

def simpleNameOf (name : String) : String := Text.afterLastBy (fun c => c == '.' || c == '$') name

def simpleName (expr : TypeExpr) : String := simpleNameOf expr.name

mutual
def display : TypeExpr → String
  | ⟨name, args, dims⟩ =>
    let list := match args with
      | [] => ""
      | _ => "<" ++ displayArgs args ++ ">"
    name ++ list ++ String.join (List.replicate dims "[]")
def displayArgs : List TypeExpr → String
  | [] => ""
  | [arg] => display arg
  | arg :: next :: rest => display arg ++ ", " ++ displayArgs (next :: rest)
end

end TypeExpr
end ClientPackager
