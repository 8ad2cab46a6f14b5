import PromptTemplate.Codes.Encoding

set_option autoImplicit false

namespace PromptTemplate.Codes

/-- Why bytes cannot be read on. -/
inductive UtfReason where
  | start
  | continuation
  | ending
  deriving DecidableEq, Repr

def UtfReason.words : UtfReason → String
  | .start => "invalid start byte"
  | .continuation => "invalid continuation byte"
  | .ending => "unexpected end of data"

/-- Bytes that cannot be read, with the number of bytes before them. -/
structure UtfFault where
  index : Nat
  bytes : Codes
  reason : UtfReason
  deriving DecidableEq, Repr

/-- The words for a fault. A single byte is shown. -/
def UtfFault.message (fault : UtfFault) : String :=
  let place := match fault.bytes with
    | [byte] =>
      "byte 0x" ++ String.ofList (Text.hexadecimal 2 byte) ++ s!" in position {fault.index}"
    | bytes => s!"bytes in position {fault.index}-{fault.index + bytes.length - 1}"
  "'utf-8' codec can't decode " ++ place ++ ": " ++ fault.reason.words

/-- The first bytes that cannot be read. The first argument counts the bytes before, the second one bytes
that have been looked at. -/
def utfFault? : Nat → Nat → Codes → Option UtfFault
  | _, _, [] => none
  | index, skipped + 1, _ :: rest => utfFault? (index + 1) skipped rest
  | index, 0, byte :: rest =>
    if byte < 0x80 then utfFault? (index + 1) 0 rest
    else match Encoding.following? byte with
      | none => some ⟨index, [byte], .start⟩
      | some (more, low, high) =>
        let good := match rest with
          | next :: others =>
            if low ≤ next && next < high then
              next :: (others.take (more - 1)).takeWhile Encoding.continues
            else []
          | [] => []
        if good.length = more then utfFault? (index + 1) more rest
        else if good.length = rest.length then some ⟨index, byte :: good, .ending⟩
        else some ⟨index, byte :: good, .continuation⟩

def ofUtf (bytes : Codes) : Except UtfFault Codes :=
  match utfFault? 0 0 bytes with
  | some fault => .error fault
  | none => .ok ((Encoding.readVariable [] 0 bytes).toOption.getD [])

end PromptTemplate.Codes
