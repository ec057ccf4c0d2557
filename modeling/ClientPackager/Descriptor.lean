import ClientPackager.Text.Split

set_option autoImplicit false

namespace ClientPackager

-- Every width is one kind of number to a client.
inductive NumberKind where
  | byte | short | int | long | float | double | decimal
deriving DecidableEq, Repr

namespace NumberKind

def all : List NumberKind := [byte, short, int, long, float, double, decimal]

def label : NumberKind → String
  | byte => "byte"
  | short => "short"
  | int => "int"
  | long => "long"
  | float => "float"
  | double => "double"
  | decimal => "decimal"

def ofLabel? (text : String) : Option NumberKind := all.find? fun kind => kind.label == text

theorem ofLabel?_label (kind : NumberKind) : ofLabel? kind.label = some kind := by
  cases kind <;> decide

end NumberKind

structure RecordId where
  text : String
deriving DecidableEq, Repr

def RecordId.simpleName (id : RecordId) : String :=
  Text.afterLastBy (fun c => c == '.' || c == '$') id.text

inductive Descriptor where
  | number (kind : NumberKind)
  | boolean
  | text
  | void
  | dateTime
  | binary
  | list (element : Descriptor)
  | single (value : Descriptor)
  | stream (element : Descriptor)
  | record (id : RecordId)
deriving DecidableEq, Repr

namespace Descriptor

def argument? : Descriptor → Option Descriptor
  | list inner | single inner | stream inner => some inner
  | _ => none

def isStream : Descriptor → Bool
  | stream _ => true
  | _ => false

def isSingle : Descriptor → Bool
  | single _ => true
  | _ => false

def isRecord : Descriptor → Bool
  | record _ => true
  | _ => false

def isVoidLike : Descriptor → Bool
  | void | single void => true
  | _ => false

def inner (type : Descriptor) : Descriptor := type.argument?.getD type

def payload (type : Descriptor) : Descriptor := type.inner.inner

def outOfSingle : Descriptor → Descriptor
  | single value => value
  | type => type

def delivered : Descriptor → Descriptor
  | stream inner | single inner => inner
  | type => type

def records : Descriptor → List RecordId
  | record id => [id]
  | list inner | single inner | stream inner => records inner
  | _ => []

def display : Descriptor → String
  | number kind => s!"Number({kind.label})"
  | boolean => "Boolean"
  | text => "Text"
  | void => "Void"
  | dateTime => "DateTime"
  | binary => "Binary"
  | list element => s!"List<{element.display}>"
  | single value => s!"Single<{value.display}>"
  | stream element => s!"Stream<{element.display}>"
  | record id => id.simpleName

end Descriptor

structure Property where
  name : String
  -- Text in the language of the clients.
  type : String
  description : Option String
deriving DecidableEq, Repr

structure Typedef where
  name : String
  properties : List Property
deriving DecidableEq, Repr

end ClientPackager
