import Mathlib.Data.Stream.Init
import MotionFirmware.Foundation.Binary64
import MotionFirmware.Foundation.CString

/-!
# The formatter

`tiny_format.c`.  A writer appends bytes to a buffer and remembers a failure; the conversions do
not look at it except in `string`, since a full buffer stays full.  `tiny_vformat` interprets the
format byte by byte: after a `%` an optional `06`, then `.6g`, or an optional `l` and a conversion.

The arguments are a stream of slots, each with the value that `va_arg` returns there for every type
the code reads.  The loops over the digits of a number and over its exponent have a bound in the
model; it is never what ends them.
-/

namespace MotionFirmware

/-- `writer_t`. -/
structure Writer where
  data : ℕ → UInt8
  used : ℕ
  capacity : ℕ
  failed : Bool

/-- One slot of the variable arguments. -/
structure VaArg where
  /-- A `const char *`. -/
  text : Option CString
  unsignedInt : UInt32
  int : Int32
  /-- `long` has 32 bits on the target. -/
  unsignedLong : UInt32
  long : Int32
  double : Double

namespace Writer

/-- Set the failure flag. -/
def fail (w : Writer) : Writer := { w with failed := true }

/-- `character`.  The sum does not wrap, since `used` is below the capacity. -/
def character (w : Writer) (c : UInt8) : Writer :=
  if w.capacity ≤ w.used + 1 then w.fail
  else { w with data := Function.update w.data w.used c, used := w.used + 1 }

/-- The loop of `string`. -/
def stringLoop : List UInt8 → Writer → Writer
  | [], w => w
  | c :: s, w => if w.failed then w else stringLoop s (w.character c)

/-- `string`. -/
def string (w : Writer) (s : Option CString) : Writer :=
  match s with
  | none => w.fail
  | some s => stringLoop s.bytes w

/-- Characters one after the other. -/
def characters (w : Writer) (text : List UInt8) : Writer := text.foldl character w

end Writer

/-- The digits that the first loop of `integer` stores, the lowest first, in at most `n` places. -/
def integerDigits : ℕ → UInt32 → List UInt8
  | 0, _ => []
  | n + 1, value =>
    (ascii '0' + (value % 10).toUInt8) ::
      if value / 10 = 0 then [] else integerDigits n (value / 10)

/-- `integer`. -/
def Writer.integer (w : Writer) (value : UInt32) (width : ℕ) : Writer :=
  let digits := integerDigits 10 value
  let w := w.characters (List.replicate (width - digits.length) (ascii '0'))
  w.characters digits.reverse

/-- The conversion `(uint32_t)` of a nonnegative value, which drops the fraction. -/
def truncated : FloatValue → UInt32
  | .finite q => UInt32.ofNat ⌊q⌋₊
  | _ => 0

/-- More than the number of times that a `double` can be divided or multiplied by ten before it
lies between one and ten. -/
def scalings : ℕ := 1200

section Real

variable [DoubleRounding]

/-- `while (value >= 10.0) { value /= 10.0; ++exponent; }` -/
def scaleDown : ℕ → FloatValue → ℤ → FloatValue × ℤ
  | 0, value, exponent => (value, exponent)
  | n + 1, value, exponent =>
    if .finite 10 ≤ value then scaleDown n (value / .finite 10) (exponent + 1)
    else (value, exponent)

/-- `while (value < 1.0) { value *= 10.0; --exponent; }` -/
def scaleUp : ℕ → FloatValue → ℤ → FloatValue × ℤ
  | 0, value, exponent => (value, exponent)
  | n + 1, value, exponent =>
    if value < .finite 1 then scaleUp n (value * .finite 10) (exponent - 1)
    else (value, exponent)

/-- The digits and the exponent of a positive value. -/
def scaledValue (value : FloatValue) : UInt32 × ℤ :=
  let down := scaleDown scalings value 0
  let up := scaleUp scalings down.1 down.2
  let scaled := truncated (up.1 * .finite 100000 + .finite (1 / 2))
  if 1000000 ≤ scaled then (100000, up.2 + 1) else (scaled, up.2)

/-- `real`. -/
def Writer.real (w : Writer) (value : FloatValue) : Writer :=
  if !value.isFinite then w.string (some ⟨literal "invalid", by decide⟩)
  else if value = 0 then w.character (ascii '0')
  else
    let w := if value < 0 then w.character (ascii '-') else w
    let scaled := scaledValue (if value < 0 then -value else value)
    let w := w.integer (scaled.1 / 100000) 1
    let w := w.character (ascii '.')
    let w := w.integer (scaled.1 % 100000) 5
    let w := w.character (ascii 'e')
    let w := w.character (if scaled.2 < 0 then ascii '-' else ascii '+')
    w.integer (UInt32.ofNat scaled.2.natAbs) 2

end Real

/-- The optional `06` after a `%`: the width and the rest of the format, or nothing where another
character follows the `0`. -/
def zeroWidth (format : List UInt8) : Option (ℕ × List UInt8) :=
  if format.head? = some (ascii '0') then
    if format.tail.head? = some (ascii '6') then some (6, format.tail.tail) else none
  else some (0, format)

/-- The `switch` on the conversion character: the writer and the remaining arguments. -/
def conversion (w : Writer) (longValue : Bool) (width : ℕ) (c : Option UInt8)
    (args : Stream' VaArg) : Writer × Stream' VaArg :=
  if c = some (ascii 's') then
    if longValue || width ≠ 0 then (w.fail, args) else (w.string args.head.text, args.tail)
  else if c = some (ascii 'u') then
    (w.integer (if longValue then args.head.unsignedLong else args.head.unsignedInt) width,
      args.tail)
  else if c = some (ascii 'd') then
    let value := if longValue then args.head.long else args.head.int
    let w := if value < 0 then w.character (ascii '-') else w
    (w.integer (if value < 0 then 0 - value.toUInt32 else value.toUInt32) width, args.tail)
  else (w.fail, args)

section Format

variable [DoubleRounding]

/-- What follows a `%`: the writer, the rest of the format and the remaining arguments. -/
def directive (w : Writer) (format : List UInt8) (args : Stream' VaArg) :
    Writer × List UInt8 × Stream' VaArg :=
  match zeroWidth format with
  | none => (w.fail, format, args)
  | some (width, format) =>
    if (literal ".6g").isPrefixOf format then
      (w.real args.head.double.value, format.drop 3, args.tail)
    else
      let longValue := decide (format.head? = some (ascii 'l'))
      let format := if longValue then format.tail else format
      let converted := conversion w longValue width format.head? args
      (converted.1, format.tail, converted.2)

/-- The loop of `tiny_vformat`; every iteration takes at least one character of the format. -/
def formatLoop : ℕ → Writer → List UInt8 → Stream' VaArg → Writer
  | 0, w, _, _ => w
  | _ + 1, w, [], _ => w
  | n + 1, w, c :: format, args =>
    if w.failed then w
    else if c ≠ ascii '%' then formatLoop n (w.character c) format args
    else
      let next := directive w format args
      formatLoop n next.1 next.2.1 next.2.2

/-- `tiny_vformat`: the result, and the memory at `out` where that is not `NULL`. -/
def tinyVformat (out : Option (ℕ → UInt8)) (capacity : ℕ) (format : Option CString)
    (args : Stream' VaArg) : Int32 × Option (ℕ → UInt8) :=
  match out, format with
  | some data, some format =>
    if capacity = 0 then (-1, out)
    else
      let w := formatLoop format.bytes.length
        { data := data, used := 0, capacity := capacity, failed := false } format.bytes args
      (if w.failed then -1 else Int32.ofNat w.used, some (Function.update w.data w.used 0))
  | _, _ => (-1, out)

end Format

end MotionFirmware
