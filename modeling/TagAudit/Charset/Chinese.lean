import TagAudit.Charset.Basic
import TagAudit.Charset.Segments
import TagAudit.Charset.Table.Chinese

/-!
# Chinese charsets

The sets of the mainland contain one another: GB 2312 in GBK, and GBK in GB 18030, which reaches all
of Unicode by characters of four octets. HZ writes GB 2312 with octets of ASCII only. The sets of
Taiwan and Hong Kong are Big5 and two of its extensions.
-/

namespace TagAudit.Charset

/-! ## Simplified -/

/-- The character of two octets in GBK. -/
def gbkPair? (lead trail : Nat) : Option Text := single? (gbk.find? lead trail)

/-- The character of two octets in GB 2312. Two signs are others than in GBK. -/
def gb2312Pair? (lead trail : Nat) : Option Text :=
  if lead < 0xA1 || trail < 0xA1 ||
      gbkOnly.any fun (row, first, last) => row = lead && first ≤ trail && trail ≤ last then
    none
  else if lead = 0xA1 && trail = 0xA4 then some ['・']
  else if lead = 0xA1 && trail = 0xAA then some ['―']
  else gbkPair? lead trail

/-- GB 2312. -/
def gb2312 : Charset := ofPairs gb2312Pair?

/-- GBK. -/
def gbkCharset : Charset := ofPairs gbkPair?

/-- The character of two octets in GB 18030. -/
def gb18030Pair? (lead trail : Nat) : Option Text :=
  (gbkPair? lead trail).or (single? (runCode? gb18030Runs lead trail))

/-- How many third and fourth octets there are together. -/
def gb18030Row : Nat := 1260

/-- The code point of a place among those of four octets, below U+10000. -/
def gb18030Code? (place : Nat) : Option CodePoint :=
  gb18030Places.findSome? fun (first, count, code) =>
    if first ≤ place && place < first + count then some (CodePoint.ofNat (code + (place - first)))
    else none

/-- The first octet of the characters beyond U+FFFF. -/
def gb18030Far : Nat := 0x90

/-- The character of four octets in GB 18030. -/
def gb18030Four? (a b c d : Nat) : Option CodePoint :=
  let isOuter (n : Nat) : Bool := 0x81 ≤ n && n ≤ 0xFE
  let isInner (n : Nat) : Bool := 0x30 ≤ n && n ≤ 0x39
  let placeFrom (first : Nat) : Nat :=
    ((a - first) * 10 + (b - 0x30)) * gb18030Row + (c - 0x81) * 10 + (d - 0x30)
  if !(isOuter a && isInner b && isOuter c && isInner d) then none
  else if a < 0x85 then gb18030Code? (placeFrom 0x81)
  else if a < gb18030Far then none
  else
    let n := 0x10000 + placeFrom gb18030Far
    if n < 0x110000 then some (CodePoint.ofNat n) else none

/-- The front of octets in GB 18030. A digit in second place says that there are four octets. -/
def gb18030Front (octet : Nat) (rest : Octets) : Front :=
  let isFour : Bool := match rest with
    | second :: _ => isHigh octet && 0x30 ≤ second.toNat && second.toNat ≤ 0x39
    | [] => false
  if !isFour then pairFront ascii? isHigh gb18030Pair? octet rest
  else
    match rest with
    | b :: c :: d :: _ =>
      match gb18030Four? octet b.toNat c.toNat d.toNat with
      | some c => .text [c] 3
      | none => .invalid 0
    | _ => .incomplete

/-- GB 18030. -/
def gb18030 : Charset := ofFront gb18030Front

/-- The front of octets in HZ. The state is whether pairs are being read: a tilde and a brace turn
that on and off. -/
def hzFront (pairs : Bool) (octet : Nat) (rest : Octets) : Front × Bool :=
  if octet = 0x7E then
    match rest with
    | [] => (.incomplete, pairs)
    | second :: _ =>
      if pairs then
        if second = 0x7D then (.text [] 1, false) else (.invalid 0, pairs)
      else if second = 0x7E then (.text ['~'] 1, pairs)
      else if second = 0x7B then (.text [] 1, true)
      else if second = 0x0A then (.text [] 1, pairs)
      else (.invalid 0, pairs)
  else if isHigh octet then (.invalid 0, pairs)
  else if !pairs then (.text [CodePoint.ofNat octet] 0, pairs)
  else
    match rest with
    | [] => (.incomplete, pairs)
    | second :: _ =>
      match if isHigh second.toNat then none
        else gb2312Pair? (octet + 0x80) (second.toNat + 0x80) with
      | some t => (.text t 1, pairs)
      | none => (.invalid 0, pairs)

/-- HZ. -/
def hz : Charset := readFrom hzFront false []

/-! ## Traditional -/

/-- The character of two octets in Big5. -/
def big5Pair? (lead trail : Nat) : Option Text := single? (big5.find? lead trail)

/-- Big5. -/
def big5Charset : Charset := ofPairs big5Pair?

/-- Big5 with what Windows adds. -/
def windowsTraditional : Charset := ofPairs fun lead trail =>
  (single? (windowsBig5.find? lead trail)).or (big5Pair? lead trail)

/-- Big5 with what the set of Hong Kong adds. -/
def hongKongCharset : Charset := ofPairs fun lead trail =>
  (pairCode? hongKongPairs lead trail).or ((single? (hongKong.find? lead trail)).or
    (if hongKongGaps.contains (lead, trail) then none else big5Pair? lead trail))

end TagAudit.Charset
