import ClientPackager.Client.TypeText
import ClientPackager.Proofs.Client.TypeReading

set_option autoImplicit false

namespace ClientPackager.Client

open ScriptType (Denotes IsName Reads tokens)

-- What a declaration tells of a type: no widths of numbers, no singles, and the
-- names of records instead of their identities.
inductive Erased where
  | number
  | boolean
  | text
  | void
  | dateTime
  | binary
  | list (element : Erased)
  | stream (element : Erased)
  | named (name : String)
deriving DecidableEq, Repr

def erase (name : RecordId → String) : Descriptor → Erased
  | .number _ => .number
  | .boolean => .boolean
  | .text => .text
  | .void => .void
  | .dateTime => .dateTime
  | .binary => .binary
  | .list element => .list (erase name element)
  | .single value => erase name value
  | .stream element => .stream (erase name element)
  | .record id => .named (name id)

namespace Erased

-- A stream comes as an array or in one of two classes.
def meaning : Erased → ScriptType
  | number => .named "number"
  | boolean => .named "boolean"
  | text => .named "string"
  | void => .named "void"
  | dateTime => .named "Date"
  | binary => .named "Buffer"
  | list element => .array element.meaning
  | stream element =>
    .union (.array element.meaning)
      (.union (.applied "Observable" element.meaning) (.applied "Flowable" element.meaning))
  | named name => .named name

def names : Erased → List String
  | list element | stream element => element.names
  | named name => [name]
  | _ => []

def staticText : Erased → String
  | number => "number"
  | boolean => "boolean"
  | text => "string"
  | void => "void"
  | dateTime => "Date"
  | binary => "Buffer"
  | list element => Registry.groupUnion element.staticText ++ "[]"
  | stream element =>
    Registry.groupUnion element.staticText ++ "[] | Observable<" ++ element.staticText ++ "> | Flowable<" ++
      element.staticText ++ ">"
  | named name => name

def runtimeText : Erased → String
  | number => "number"
  | boolean => "boolean"
  | text => "string"
  | void => "undefined"
  | dateTime => "Date"
  | binary => "Buffer"
  | list _ => "Array"
  | stream _ => "Array|Observable|Flowable"
  | named name => if name = "any" then "Object" else name

end Erased

theorem static_text_erased (name : RecordId → String) (type : Descriptor) :
    Registry.staticTextBy name type = (erase name type).staticText := by
  induction type with
  | number | boolean | text | void | dateTime | binary | record => rfl
  | list element ih => simp only [Registry.staticTextBy, erase, Erased.staticText, ih]
  | single value ih => exact ih
  | stream element ih => simp only [Registry.staticTextBy, erase, Erased.staticText, ih]

namespace ScriptType

-- A type that brackets may follow, in parentheses if there is a bar in it.
structure Groupable (text : String) (type : ScriptType) : Prop where
  whole : Denotes text type
  barless : '|' ∉ text.toList → Reads .bracketed (tokens text.toList) type

theorem groupable_of_bracketed (text : String) (type : ScriptType) (reads : Reads .bracketed (tokens text.toList) type) :
    Groupable text type :=
  ⟨.single _ type reads, fun _ => reads⟩

theorem bracketed_of_atom (ts : List Token) (type : ScriptType) (reads : Reads .atom ts type) :
    Reads .bracketed ts type := by
  simpa [brackets, arrays] using Reads.bracketed ts type 0 reads

theorem brackets_outside (dims : Nat) : brackets dims ++ [.mark '[', .mark ']'] = brackets (dims + 1) := by
  induction dims with
  | zero => rfl
  | succ dims ih => exact congrArg (fun rest => .mark '[' :: .mark ']' :: rest) ih

theorem bracketed_array (ts : List Token) (element : ScriptType) (reads : Reads .bracketed ts element) :
    Reads .bracketed (ts ++ [.mark '[', .mark ']']) (.array element) := by
  cases reads with
  | bracketed ts element dims inner =>
      rw [List.append_assoc, brackets_outside]
      exact .bracketed ts element (dims + 1) inner

theorem name_groupable (name : String) (proper : IsName name) : Groupable name (.named name) := by
  apply groupable_of_bracketed
  rw [tokens_name name proper]
  exact bracketed_of_atom _ _ (.named name)

theorem tokens_group (text : String) :
    tokens ("(" ++ text ++ ")").toList = .mark '(' :: (tokens text.toList ++ [.mark ')']) := by
  have whole : ("(" ++ text ++ ")").toList = [] ++ "(".toList ++ (text.toList ++ ")".toList ++ []) := by simp
  rw [whole, tokens_parted [] _ "(" [.mark '('] (by decide +kernel),
    tokens_parted text.toList [] ")" [.mark ')'] (by decide +kernel)]
  simp

theorem group_reads (text : String) (type : ScriptType) (groupable : Groupable text type) :
    Reads .bracketed (tokens (Registry.groupUnion text).toList) type := by
  by_cases bar : '|' ∈ text.toList
  · rw [Registry.groupUnion, if_pos bar, tokens_group]
    exact bracketed_of_atom _ _ (.group _ type groupable.whole)
  · rw [Registry.groupUnion, if_neg bar]
    exact groupable.barless bar

theorem tokens_array (front : String) :
    tokens (front ++ "[]").toList = tokens front.toList ++ [.mark '[', .mark ']'] := by
  have whole : (front ++ "[]").toList = front.toList ++ "[]".toList ++ [] := by simp
  rw [whole, tokens_parted front.toList [] "[]" [.mark '[', .mark ']'] (by decide +kernel)]
  simp

theorem list_groupable (text : String) (element : ScriptType) (groupable : Groupable text element) :
    Groupable (Registry.groupUnion text ++ "[]") (.array element) := by
  apply groupable_of_bracketed
  rw [tokens_array]
  exact bracketed_array _ element (group_reads text element groupable)

theorem tokens_stream (array element : String) :
    tokens (array ++ "[] | Observable<" ++ element ++ "> | Flowable<" ++ element ++ ">").toList =
      (tokens array.toList ++ [.mark '[', .mark ']']) ++ .mark '|' ::
        (.name "Observable" :: .mark '<' :: (tokens element.toList ++ [.mark '>']) ++ .mark '|' ::
          (.name "Flowable" :: .mark '<' :: (tokens element.toList ++ [.mark '>']))) := by
  have whole : (array ++ "[] | Observable<" ++ element ++ "> | Flowable<" ++ element ++ ">").toList =
      array.toList ++ "[] | Observable<".toList ++
        (element.toList ++ "> | Flowable<".toList ++ (element.toList ++ ">".toList ++ [])) := by simp
  rw [whole, tokens_parted array.toList _ "[] | Observable<"
      [.mark '[', .mark ']', .mark '|', .name "Observable", .mark '<'] (by decide +kernel),
    tokens_parted element.toList _ "> | Flowable<" [.mark '>', .mark '|', .name "Flowable", .mark '<'] (by decide +kernel),
    tokens_parted element.toList [] ">" [.mark '>'] (by decide +kernel)]
  simp

theorem stream_groupable (text : String) (element : ScriptType) (groupable : Groupable text element) :
    Groupable (Registry.groupUnion text ++ "[] | Observable<" ++ text ++ "> | Flowable<" ++ text ++ ">")
      (.union (.array element) (.union (.applied "Observable" element) (.applied "Flowable" element))) := by
  refine ⟨?_, fun barless => absurd (by simp) barless⟩
  have array := bracketed_array _ element (group_reads text element groupable)
  have observable := bracketed_of_atom _ _ (.applied "Observable" _ element groupable.whole)
  have flowable := bracketed_of_atom _ _ (.applied "Flowable" _ element groupable.whole)
  rw [Denotes, tokens_stream]
  exact .union _ _ _ _ array (.union _ _ _ _ observable (.single _ _ flowable))

end ScriptType

namespace Erased

open ScriptType (Groupable)

def ownWords : List (String × Erased) :=
  [("number", number), ("boolean", boolean), ("string", text), ("void", void), ("Date", dateTime), ("Buffer", binary)]

theorem own_words_names : ∀ entry ∈ ownWords, IsName entry.1 := by
  decide +kernel

theorem text_groupable (type : Erased) (proper : ∀ name ∈ type.names, IsName name) :
    Groupable type.staticText type.meaning := by
  have own (word : String) (plain : Erased) (listed : (word, plain) ∈ ownWords) : Groupable word (.named word) :=
    ScriptType.name_groupable word (own_words_names _ listed)
  induction type with
  | number => exact own "number" number (by decide)
  | boolean => exact own "boolean" boolean (by decide)
  | text => exact own "string" text (by decide)
  | void => exact own "void" void (by decide)
  | dateTime => exact own "Date" dateTime (by decide)
  | binary => exact own "Buffer" binary (by decide)
  | list element ih => exact ScriptType.list_groupable _ _ (ih proper)
  | stream element ih => exact ScriptType.stream_groupable _ _ (ih proper)
  | named name => exact ScriptType.name_groupable name (proper name List.mem_cons_self)

-- What a type must have been, going by the words that no record has.
def ofMeaning : ScriptType → Erased
  | .named name => ((ownWords.find? (·.1 == name)).map (·.2)).getD (named name)
  | .array element => list (ofMeaning element)
  | .union (.array element) _ => stream (ofMeaning element)
  | _ => void

theorem of_meaning (type : Erased) (apart : ∀ name ∈ type.names, name ∉ ownWords.map Prod.fst) :
    ofMeaning type.meaning = type := by
  induction type with
  | number | boolean | text | void | dateTime | binary => decide +kernel
  | list element ih | stream element ih => rw [meaning, ofMeaning, ih apart]
  | named name =>
      have none : ownWords.find? (·.1 == name) = none := by
        rw [List.find?_eq_none]
        intro entry listed same
        exact apart name List.mem_cons_self (List.mem_map.mpr ⟨entry, listed, by simpa using same⟩)
      rw [meaning, ofMeaning, none]
      rfl

end Erased

end ClientPackager.Client
