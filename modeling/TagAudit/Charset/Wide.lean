import TagAudit.Charset.Basic

/-!
# Charsets of wide units

UTF-16 and UTF-32: units of two and of four octets. The order of the octets in a unit is part of
the charset, or a mark at the front says it.
-/

namespace TagAudit.Charset

/-- The order of the octets in a unit. -/
inductive ByteOrder where
  | little
  | big
deriving DecidableEq

/-- The number of the octets of a unit. -/
def ByteOrder.value (order : ByteOrder) (octets : Octets) : Nat :=
  (if order = .little then octets.reverse else octets).foldl (fun n o => n * 0x100 + o.toNat) 0

/-- The front of octets in UTF-16. Half of a surrogate pair has no meaning alone. -/
def ByteOrder.front16 (order : ByteOrder) (octet : Nat) (rest : Octets) : Front :=
  let unit (a b : UInt8) : CodePoint := CodePoint.ofNat (order.value [a, b])
  let first := UInt8.ofNat octet
  match rest with
  | [] => .incomplete
  | second :: rest =>
    let c := unit first second
    if c.isHighSurrogate then
      match rest with
      | third :: fourth :: _ =>
        let d := unit third fourth
        if d.isLowSurrogate then .text [CodePoint.joinSurrogates c d] 3 else .invalid 1
      | _ => .incomplete
    else if c.isLowSurrogate then .invalid 1
    else .text [c] 1

/-- The front of octets in UTF-32. -/
def ByteOrder.front32 (order : ByteOrder) (octet : Nat) (rest : Octets) : Front :=
  match rest with
  | second :: third :: fourth :: _ =>
    let n := order.value [UInt8.ofNat octet, second, third, fourth]
    if n < 0x110000 && !(CodePoint.ofNat n).isSurrogate then .text [CodePoint.ofNat n] 3
    else .invalid 3
  | _ => .incomplete

/-- UTF-16 with the octets of a unit in some order. -/
def utf16In (order : ByteOrder) : Charset := ofFront order.front16

/-- UTF-32 with the octets of a unit in some order. -/
def utf32In (order : ByteOrder) : Charset := ofFront order.front32

/-- What is wrong with octets that have to start with a mark. -/
def unmarked (name : Text) : Fault :=
  .worded (.other "UnicodeError") (name ++ (" stream does not start with BOM" : Text))

/-- UTF-16 with a mark that says the order. Less than a unit has no meaning. -/
def utf16 : Charset := fun octets =>
  match octets with
  | [] | [_] => utf16In .little octets
  | 0xFF :: 0xFE :: rest => utf16In .little rest
  | 0xFE :: 0xFF :: rest => utf16In .big rest
  | _ => .error (unmarked "UTF-16")

/-- UTF-32 with a mark that says the order. Less than a unit has no meaning. -/
def utf32 : Charset := fun octets =>
  match octets with
  | 0xFF :: 0xFE :: 0 :: 0 :: rest => utf32In .little rest
  | 0 :: 0 :: 0xFE :: 0xFF :: rest => utf32In .big rest
  | _ :: _ :: _ :: _ :: _ => .error (unmarked "UTF-32")
  | _ => utf32In .little octets

end TagAudit.Charset
