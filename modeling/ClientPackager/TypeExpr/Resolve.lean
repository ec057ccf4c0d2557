import ClientPackager.Descriptor
import ClientPackager.TypeExpr.Reader

set_option autoImplicit false

namespace ClientPackager

inductive Builtin where
  | plain (type : Descriptor)
  | collection
  | optional
  | single
  | stream
deriving DecidableEq, Repr

namespace Builtin

def table : List (Builtin × List String) := [
  (plain (.number .byte), ["byte", "Byte", "i8", "u8"]),
  (plain (.number .short), ["short", "Short", "i16", "u16"]),
  (plain (.number .int), ["int", "Integer", "i32", "u32", "AtomicInteger"]),
  (plain (.number .long), ["long", "Long", "i64", "u64", "isize", "usize", "AtomicLong"]),
  (plain (.number .float), ["float", "Float", "f32"]),
  (plain (.number .double), ["double", "Double", "f64"]),
  (plain (.number .decimal), ["BigDecimal", "BigInteger", "Number", "i128", "u128"]),
  (plain .boolean, ["boolean", "Boolean", "bool", "AtomicBoolean"]),
  (plain .text, ["String", "char", "Character", "CharSequence", "str"]),
  (plain .void, ["void", "Void", "()", "Unit"]),
  (plain .dateTime, ["Date", "LocalDate", "LocalDateTime", "LocalTime", "Instant",
    "OffsetDateTime", "ZonedDateTime", "Timestamp", "Calendar", "DateTime", "NaiveDate",
    "NaiveDateTime", "SystemTime"]),
  (plain .binary, ["ByteBuffer", "ByteBuf", "DataBuffer", "Bytes"]),
  (collection, ["List", "ArrayList", "LinkedList", "Set", "HashSet", "TreeSet", "LinkedHashSet",
    "SortedSet", "Collection", "Iterable", "Vec", "VecDeque", "BTreeSet"]),
  (optional, ["Optional", "Option"]),
  (single, ["Mono", "CompletableFuture", "CompletionStage", "Future", "Single", "Maybe"]),
  (stream, ["Flux", "Publisher", "Flowable", "Observable"])]

def ofName? (simple : String) : Option Builtin :=
  (table.find? fun entry => entry.2.contains simple).map (·.1)

def apply (simple : String) (argument : Descriptor) : Builtin → Descriptor
  | plain type => type
  | collection =>
    if argument = .number .byte ∧ simple = "Vec" then .binary else .list argument
  | optional => argument
  | single => .single argument
  | stream => .stream argument

end Builtin

structure Resolver where
  records : List RecordId
deriving DecidableEq, Repr

namespace Resolver

-- The exact identity of a known record comes first, then the built-in names, then the
-- simple names of the known records; any other name is a record of its own.
def named (resolver : Resolver) (name : String) (argument : Descriptor) : Descriptor :=
  if ⟨name⟩ ∈ resolver.records then .record ⟨name⟩
  else
    let simple := TypeExpr.simpleNameOf name
    match Builtin.ofName? simple with
    | some kind => kind.apply simple argument
    | none => .record ((resolver.records.find? (·.simpleName == simple)).getD ⟨name⟩)

def arrayOf (element : Descriptor) : Nat → Descriptor
  | 0 => element
  | dims + 1 => .list (arrayOf element dims)

def isByteElement (expr : TypeExpr) : Bool :=
  expr.args.isEmpty && ["byte", "Byte", "u8"].contains expr.simpleName

def resolve (resolver : Resolver) : TypeExpr → Descriptor
  | ⟨name, args, dims⟩ =>
    let argument := match args with
      | [] => .record ⟨TypeExpr.anything.name⟩
      | first :: _ => resolver.resolve first
    match dims with
    | 0 => resolver.named name argument
    | outer + 1 =>
      if isByteElement ⟨name, args, 0⟩ then arrayOf .binary outer
      else arrayOf (resolver.named name argument) (outer + 1)

def resolveText (resolver : Resolver) (text : String) : Outcome Descriptor :=
  (TypeExpr.parse text).map resolver.resolve

end Resolver
end ClientPackager
