import ClientPackager.Descriptor

set_option autoImplicit false

namespace ClientPackager

inductive Mode where
  | fireAndForget
  | requestResponse
  | requestStream
  | requestChannel
deriving DecidableEq, Repr

namespace Mode

def all : List Mode := [fireAndForget, requestResponse, requestStream, requestChannel]

def label : Mode → String
  | fireAndForget => "fire_and_forget"
  | requestResponse => "request_response"
  | requestStream => "request_stream"
  | requestChannel => "request_channel"

def ofLabel? (text : String) : Option Mode := all.find? fun mode => mode.label == text

theorem ofLabel?_label (mode : Mode) : ofLabel? mode.label = some mode := by
  cases mode <;> decide

def primitive : Mode → String
  | fireAndForget => "rsocketFireAndForget"
  | requestResponse => "rsocketRequestResponse"
  | requestStream => "rsocketRequestStream"
  | requestChannel => "rsocketRequestChannel"

def isMultiValued : Mode → Bool
  | requestStream | requestChannel => true
  | _ => false

end Mode

structure Classification where
  mode : Mode
  singleResultChannel : Bool
deriving DecidableEq, Repr

namespace Classification

def takesChannel : List Descriptor → Bool
  | [only] => only.isStream
  | [_, second] => second.isStream
  | _ => false

def modeOfResult (result : Descriptor) : Mode :=
  if result.isVoidLike then .fireAndForget
  else if result.isStream then .requestStream
  else .requestResponse

def ofTypes (params : List Descriptor) (result : Descriptor) : Classification :=
  if takesChannel params then ⟨.requestChannel, result.isSingle⟩ else ⟨modeOfResult result, false⟩

end Classification
end ClientPackager
