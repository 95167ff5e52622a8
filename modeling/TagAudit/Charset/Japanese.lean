import TagAudit.Charset.Basic
import TagAudit.Charset.Table.Japanese

/-!
# Japanese charsets

The sets of the Japanese standards in two arrangements of octets, Shift JIS and EUC. Both also have
the half-width forms of Katakana.

* `JapaneseSet.plane?` and `secondPlane?` are the look-ups by row and cell.
-/

namespace TagAudit.Charset

/-- The sets that are told apart. -/
inductive JapaneseSet where
  /-- JIS X 0208. -/
  | basic
  /-- JIS X 0208 with what Windows adds. -/
  | windows
  /-- JIS X 0213 as it was first. -/
  | wide
  /-- JIS X 0213 with the changes of 2004. -/
  | wide2004
deriving DecidableEq

/-! ## Sets -/

/-- How many cells a row has. -/
def cellCount : Nat := 94

/-- The characters that JIS X 0213 has got in 2004, by row and cell. -/
def added2004 : List (Nat × Nat) := [
  (14, 1), (15, 94), (47, 52), (47, 94), (84, 7), (94, 90), (94, 91), (94, 92), (94, 93), (94, 94)]

/-- The first code point of the users' own characters. -/
def ownBase : Nat := 0xE000

/-- The first row of the users' own characters, and the first row behind them. -/
def ownRows : Nat × Nat := (95, 115)

/-- The character of JIS X 0213 that JIS X 0208 does not have, in the first plane. -/
def jis0213Code? (row cell : Nat) : Option Text :=
  (single? (jis0213.find? row cell)).or (pairCode? jis0213Pairs row cell)

/-- The character at a cell of the first plane. -/
def JapaneseSet.plane? (set : JapaneseSet) (row cell : Nat) : Option Text :=
  let basic := single? (jis0208.find? row cell)
  match set with
  | .basic => basic
  | .windows =>
    let own : Option Text :=
      if ownRows.1 ≤ row && row < ownRows.2 then
        some [CodePoint.ofNat (ownBase + (row - ownRows.1) * cellCount + (cell - 1))]
      else none
    (single? (windowsJapanese.find? row cell)).or (own.or basic)
  | .wide => if added2004.contains (row, cell) then none else basic.or (jis0213Code? row cell)
  | .wide2004 => basic.or (jis0213Code? row cell)

/-- The character at a cell of the second plane. -/
def JapaneseSet.secondPlane? (set : JapaneseSet) (row cell : Nat) : Option Text :=
  match set with
  | .basic | .windows => none
  | .wide =>
    if row = 93 && cell = 27 then some [CodePoint.ofNat 0x9B1D]
    else single? (jis0213Second.find? row cell)
  | .wide2004 => single? (jis0213Second.find? row cell)

/-- The half-width form of Katakana that an octet stands for. -/
def katakana? (octet : Nat) : Option CodePoint :=
  if 0xA1 ≤ octet && octet ≤ 0xDF then some (CodePoint.ofNat (0xFF61 + (octet - 0xA1))) else none

/-! ## Shift JIS -/

/-- The row and the cell of two octets in Shift JIS. -/
def shiftedCell? (lead trail : Nat) : Option (Nat × Nat) :=
  if trail < 0x40 || trail = 0x7F || 0xFC < trail then none
  else
    let half := if lead < 0xA0 then lead - 0x81 else lead - 0xC1
    let place := if trail < 0x7F then trail - 0x40 else trail - 0x41
    some (half * 2 + 1 + place / cellCount, place % cellCount + 1)

/-- The rows of the second plane behind those of the first one, in Shift JIS. -/
def secondRows : List Nat :=
  [1, 8, 3, 4, 5, 12, 13, 14, 15] ++ (List.range 17).map fun n => 78 + n

/-- The octets that stand alone in Shift JIS. -/
def JapaneseSet.shiftedSingle? (set : JapaneseSet) (octet : Nat) : Option CodePoint :=
  match set with
  | .basic => (ascii? octet).or (katakana? octet)
  | .windows =>
    if octet = 0x80 then some (CodePoint.ofNat octet)
    else if octet = 0xA0 then some (CodePoint.ofNat 0xF8F0)
    else if 0xFD ≤ octet then some (CodePoint.ofNat (0xF8F1 + (octet - 0xFD)))
    else (ascii? octet).or (katakana? octet)
  | .wide | .wide2004 =>
    if octet = 0x5C then some '¥'
    else if octet = 0x7E then some '‾'
    else (ascii? octet).or (katakana? octet)

/-- The octets that start a pair in Shift JIS. -/
def JapaneseSet.isShiftedLead (set : JapaneseSet) (octet : Nat) : Bool :=
  (0x81 ≤ octet && octet ≤ 0x9F) ||
    (0xE0 ≤ octet && octet ≤ (if set = .basic then 0xEA else 0xFC))

/-- The character of two octets in Shift JIS. -/
def JapaneseSet.shiftedPair? (set : JapaneseSet) (lead trail : Nat) : Option Text :=
  match shiftedCell? lead trail with
  | none => none
  | some (row, cell) =>
    match set with
    | .basic | .windows => set.plane? row cell
    | .wide | .wide2004 =>
      if row = 1 && cell = 32 then some ['\\']
      else if row = 2 && cell = 18 then some ['~']
      else if row ≤ cellCount then set.plane? row cell
      else (secondRows[row - cellCount - 1]?).bind fun second => set.secondPlane? second cell

/-- The front of octets in Shift JIS. A character that came later takes both octets with it. -/
def JapaneseSet.shiftedFront (set : JapaneseSet) (octet : Nat) (rest : Octets) : Front :=
  let later : Bool := match rest with
    | second :: _ => decide (set = .wide) && set.isShiftedLead octet &&
        (shiftedCell? octet second.toNat).any added2004.contains
    | [] => false
  if later then .invalid 1
  else pairFront set.shiftedSingle? set.isShiftedLead set.shiftedPair? octet rest

/-- Shift JIS. -/
def shiftJis (set : JapaneseSet) : Charset := ofFront set.shiftedFront

/-! ## EUC -/

/-- The row and the cell of two octets in EUC. -/
def eucCell? (lead trail : Nat) : Option (Nat × Nat) :=
  if 0xA1 ≤ lead && lead ≤ 0xFE && 0xA1 ≤ trail && trail ≤ 0xFE then
    some (lead - 0xA0, trail - 0xA0)
  else none

/-- The character of two octets in EUC. -/
def JapaneseSet.eucPair? (set : JapaneseSet) (lead trail : Nat) : Option Text :=
  if lead = 0x8E then single? (katakana? trail)
  else (eucCell? lead trail).bind fun (row, cell) => set.plane? row cell

/-- The character of two octets behind the mark of the supplement. -/
def JapaneseSet.eucTriple? (set : JapaneseSet) (lead trail : Nat) : Option Text :=
  (eucCell? lead trail).bind fun (row, cell) =>
    (set.secondPlane? row cell).or (single? (jis0212.find? row cell))

/-- The front of octets in EUC. A character that came later takes both octets with it. -/
def JapaneseSet.eucFront (set : JapaneseSet) (octet : Nat) (rest : Octets) : Front :=
  if octet = 0x8F then
    match rest with
    | second :: third :: _ =>
      match set.eucTriple? second.toNat third.toNat with
      | some t => .text t 2
      | none => .invalid 0
    | _ => .incomplete
  else
    let later : Bool := match rest with
      | second :: _ => decide (set = .wide) && (eucCell? octet second.toNat).any added2004.contains
      | [] => false
    if later then .invalid 1
    else pairFront ascii? isHigh set.eucPair? octet rest

/-- EUC for Japanese. -/
def eucJapanese (set : JapaneseSet) : Charset := ofFront set.eucFront

end TagAudit.Charset
