import Signet.Text.Utf8

/-! Writing values in packed form: a byte that names the kind, and then the length of what follows.
Lists and objects whose parts differ in length end with a table of where each part starts. -/

namespace Signet.Pack

/-- A number in this many bytes, least significant first; what does not fit is dropped. -/
def littleEndian : Nat → Nat → Bytes
  | 0, _ => []
  | width + 1, number => UInt8.ofNat (number % 256) :: littleEndian width (number / 256)

/-- The number in these bytes, least significant first. -/
def ofLittleEndian : Bytes → Nat
  | [] => 0
  | byte :: rest => byte.toNat + 256 * ofLittleEndian rest

/-- How many numbers fit into this many bytes. -/
def capacity : Nat → Nat
  | 0 => 1
  | width + 1 => 256 * capacity width

theorem length_littleEndian (width number : Nat) : (littleEndian width number).length = width := by
  induction width generalizing number with
  | zero => rfl
  | succ width ih => simp [littleEndian, ih]

theorem ofLittleEndian_littleEndian {width number : Nat} (fits : number < capacity width) :
    ofLittleEndian (littleEndian width number) = number := by
  induction width generalizing number with
  | zero =>
    have none : number = 0 := by simpa [capacity] using fits
    simp [littleEndian, ofLittleEndian, none]
  | succ width ih =>
    have rest : number / 256 < capacity width := by
      simp only [capacity] at fits
      omega
    simp [littleEndian, ofLittleEndian, ih rest]
    omega

/-- The fewest bytes that hold a number. -/
def byteWidth (number : Nat) : Nat :=
  if number = 0 then 0 else byteWidth (number / 256) + 1

/-- The widths that lengths, counts and starts may have in bytes. -/
def widths : List Nat := [1, 2, 4, 8]

namespace Print

/-- A whole number. Only its low seven bytes count, and one that has none of them is not written. -/
def unsigned (number : UInt64) : Bytes :=
  if number.toNat < 10 then [UInt8.ofNat (0x30 + number.toNat)]
  else
    let kept := number.toNat % capacity 7
    match byteWidth kept with
    | 0 => []
    | width + 1 => UInt8.ofNat (0x28 + width) :: littleEndian (width + 1) kept

/-- A text; the length of a long one has eight bytes. -/
def text (value : String) : Bytes :=
  let bytes := Text.utf8 value
  if bytes.length ≤ 126 then UInt8.ofNat (0x40 + bytes.length) :: bytes
  else 0xbf :: littleEndian 8 bytes.length ++ bytes

/-- A truth value. -/
def boolean (value : Bool) : Bytes := [if value then 0x1a else 0x19]

/-- Where each part starts if the first one starts here. -/
def starts : Nat → List Bytes → List Nat
  | _, [] => []
  | start, part :: rest => start :: starts (start + part.length) rest

/-- Parts with a table of their starts, whose order is chosen by `arrange`. The lead byte names the
width of lengths, counts and starts. -/
def indexed (lead : UInt8) (parts : List Bytes) (arrange : List (Bytes × Nat) → List (Bytes × Nat)) :
    Bytes :=
  let body := parts.flatten
  let size := fun width => 1 + 2 * width + body.length + parts.length * width
  let width := (widths.find? fun width => size width < capacity width).getD 8
  let table := arrange (parts.zip (starts (1 + 2 * width) parts))
  (lead + UInt8.ofNat (widths.idxOf width)) :: littleEndian width (size width) ++
    littleEndian width parts.length ++ body ++
    table.flatMap fun entry => littleEndian width entry.2

/-- Items of one length, without a table. -/
def even (body : Bytes) : Bytes :=
  if body.length < 254 then 0x02 :: littleEndian 1 (body.length + 2) ++ body
  else if body.length < 65533 then 0x03 :: littleEndian 2 (body.length + 3) ++ body
  else 0x04 :: littleEndian 4 (body.length + 4) ++ body

/-- A list of written items. -/
def list (items : List Bytes) : Bytes :=
  match items with
  | [] => [0x01]
  | first :: _ =>
    if items.all (·.length = first.length) then even items.flatten else indexed 0x06 items id

/-- Whether a byte string comes before another or equals it. -/
def notAfter : Bytes → Bytes → Bool
  | [], _ => true
  | _ :: _, [] => false
  | first :: firsts, second :: seconds =>
    first < second || first = second && notAfter firsts seconds

/-- An object of named and written values. Its table goes by the written names. -/
def object (members : List (String × Bytes)) : Bytes :=
  match members with
  | [] => [0x0a]
  | _ =>
    let names := members.map fun member => text member.1
    let parts := members.map fun member => text member.1 ++ member.2
    indexed 0x0b parts fun table =>
      let named := names.zip table
      (named.mergeSort fun first second => notAfter first.1 second.1).map Prod.snd

end Print
end Signet.Pack
