import Logbook.Calendar.Timestamp
import Logbook.Json.Reader

/-!
# Reading documents

Documents of two generations are kept: some write an instant as text and some as a number, and the
same holds for methods. What is wrong with a document is a `DocumentFault`.
-/

set_option autoImplicit false

namespace Logbook

/-- Why a document cannot be read. -/
inductive DocumentFault where
  /-- A text that names no method. -/
  | noMethod (text : String)
  /-- A text that names no instant. -/
  | noInstant (text : String)
  /-- A hit of a health check without an identifier. -/
  | unnamedCheck
  /-- A part of a document with the fault in it. -/
  | unreadable (part : String) (fault : Fault)
deriving Repr

namespace DocumentFault

/-- The wording of a fault. Why a text is no date and time, which the reader of dates says behind
it, is left out. -/
def message (fault : DocumentFault) : String :=
  "Document decode error: " ++
    match fault with
    | noMethod text => "unknown HTTP method '" ++ text ++ "'"
    | noInstant text => "invalid timestamp '" ++ text ++ "'"
    | unnamedCheck => "health-check hit without _id"
    | unreadable part fault => part ++ ": " ++ fault.message

end DocumentFault

namespace Reader

variable {α : Type}

/-- Reads a part of a document. -/
def part (name : String) (read : Reader α) (value : Json) : Except DocumentFault α :=
  match read value with
  | .ok a => .ok a
  | .error fault => .error (.unreadable name fault)

/-- What two forms of one thing have in common: neither is a value of any other form. -/
def twoForms : Fault := .noAlternative "Raw"

end Reader

/-- The instant that a text names. -/
def readInstantText (text : String) : Except DocumentFault Int64 :=
  match instantOfText? text with
  | some instant => .ok (Int64.ofInt instant)
  | none => .error (.noInstant text)

/-- Reads an instant: milliseconds, or text. -/
def readInstant : Reader Int64 := fun value =>
  match Reader.int64 value with
  | .ok instant => .ok instant
  | .error _ =>
    match value with
    | .string text =>
      match readInstantText text with
      | .ok instant => .ok instant
      | .error fault => .error (.refused fault.message)
    | _ => .error Reader.twoForms

/-! ## Methods -/

/-- The methods of requests. -/
inductive Method where
  | connect
  | delete
  | get
  | head
  | options
  | patch
  | post
  | put
  | trace
  | other
deriving DecidableEq, Repr

namespace Method

/-- The methods in the order of their codes. -/
def all : List Method :=
  [connect, delete, get, head, options, patch, post, put, trace, other]

/-- The name of a method. -/
def name : Method → String
  | connect => "CONNECT"
  | delete => "DELETE"
  | get => "GET"
  | head => "HEAD"
  | options => "OPTIONS"
  | patch => "PATCH"
  | post => "POST"
  | put => "PUT"
  | trace => "TRACE"
  | other => "OTHER"

/-- The method of a code. -/
def ofCode? (code : Nat) : Option Method := all[code]?

/-- The method of a name; the case of Latin letters does not matter. -/
def ofName? (name : String) : Option Method :=
  all.find? fun method => method.name = name.map Char.toUpper

/-- The method of a name, or the fault of a name that none has. -/
def ofText (text : String) : Except DocumentFault Method :=
  match ofName? text with
  | some method => .ok method
  | none => .error (.noMethod text)

/-- Reads a method: a code, or a name. -/
def read : Reader Method := fun value =>
  match Reader.uint64 value, value with
  | .ok code, _ =>
    match ofCode? code.toNat with
    | some method => .ok method
    | none => .error (.refused ("unknown HTTP method code " ++ natText code.toNat))
  | .error _, .string text =>
    match ofText text with
    | .ok method => .ok method
    | .error fault => .error (.refused fault.message)
  | .error _, _ => .error Reader.twoForms

end Method

end Logbook
