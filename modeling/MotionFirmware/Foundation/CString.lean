import Mathlib.Data.List.TakeWhile
import Mathlib.Tactic.Common

/-!
# Strings of bytes

Characters of the source are bytes, and a string is the list of the bytes before its terminator.
-/

namespace MotionFirmware

/-- The code of an ASCII character. -/
def ascii (c : Char) : UInt8 := UInt8.ofNat c.toNat

/-- The bytes of a string literal. -/
def literal (text : String) : List UInt8 := text.toList.map ascii

/-- A NUL-terminated string. -/
structure CString where
  bytes : List UInt8
  noNul : 0 ∉ bytes
  deriving DecidableEq

/-- The string that starts with the bytes: the first NUL ends it. -/
def CString.upTo (bytes : List UInt8) : CString where
  bytes := bytes.takeWhile (· != 0)
  noNul h := by simpa using List.mem_takeWhile_imp h

/-- The string of a literal. -/
def cString (text : String) : CString := .upTo (literal text)

end MotionFirmware
