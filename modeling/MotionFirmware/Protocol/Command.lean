import Mathlib.Algebra.Ring.Nat
import MotionFirmware.App.Application
import MotionFirmware.Foundation.Cursor
import MotionFirmware.Foundation.Decimal

/-!
# The command parser

`command.c`.  `command_parse` reads a frame of any length with a cursor.  In the model every read
is checked against the length of the frame, and every unsigned subtraction and multiplication
against its range; the parser has no result where the source would read outside of the frame or
wrap.  It always has a result, and the result is the one of the grammar: a frame denotes a command
exactly when it is accepted, and then the output is that command.
-/

namespace MotionFirmware

/-- `COMMAND_LINE_CAPACITY`. -/
def commandLineCapacity : ℕ := 64

/-- `command_parse_result_t`. -/
inductive CommandParseResult where
  | ok
  | empty
  | unknown
  | argument
  | tooLong
  deriving DecidableEq, Repr

/-- An entry of the table `commands`. -/
structure CommandEntry where
  name : String
  type : CommandType
  argument : Bool
  deriving DecidableEq

/-- `commands`. -/
def commands : List CommandEntry :=
  [⟨"MOVE", .moveAbs, true⟩, ⟨"MOVE_REL", .moveRel, true⟩, ⟨"SPEED", .setSpeed, true⟩,
    ⟨"HOME", .home, false⟩, ⟨"STOP", .stop, false⟩, ⟨"ESTOP", .estop, false⟩,
    ⟨"RESET", .reset, false⟩, ⟨"STATUS", .status, false⟩, ⟨"HELP", .help, false⟩]

/-- The bytes of the name of an entry. -/
def CommandEntry.bytes (e : CommandEntry) : List UInt8 := e.name.toList.map ascii

/-- `whitespace`. -/
def whitespace (c : UInt8) : Bool :=
  c == ascii ' ' || c == ascii '\t' || c == ascii '\r' || c == ascii '\n'

/-- An unsigned subtraction that does not wrap. -/
def checkedSub (a b : UInt32) : Option UInt32 := if b ≤ a then some (a - b) else none

/-- An unsigned `value * 10 + digit` that does not wrap. -/
def checkedShift (value digit : UInt32) : Option UInt32 :=
  if value.toNat * 10 + digit.toNat < 2 ^ 32 then some (value * 10 + digit) else none

/-- The loop over the digits: the value so far, and `n` positions that are left.  The inner option
is empty for `PARSE_ARGUMENT`. -/
def parseDigits (text : List UInt8) (limit : UInt32) :
    (n pos : ℕ) → UInt32 → Option (Option UInt32)
  | 0, _, value => some (some value)
  | n + 1, pos, value => do
    let c ← text[pos]?
    if !digit c then some none
    else
      let d := (c - ascii '0').toUInt32
      let bound ← checkedSub limit d
      if bound / 10 < value then some none
      else
        let value ← checkedShift value d
        parseDigits text limit n (pos + 1) value

/-- The conversion of the digits' value to the argument. -/
def signedValue (negative : Bool) (w : UInt32) : Int32 :=
  if negative then if w = 2147483648 then Int32.minValue else -w.toInt32 else w.toInt32

/-- The number after the optional sign at `pos`, up to `length`. -/
def parseNumber (text : List UInt8) (length pos : ℕ) (negative : Bool) : Option (Option Int32) :=
  if pos = length then some none
  else do
    let limit : UInt32 := if negative then 2147483648 else 2147483647
    let value ← parseDigits text limit (length - pos) pos 0
    some (value.map (signedValue negative))

/-- The argument of a command, from its optional sign on. -/
def parseArgument (text : List UInt8) (length pos : ℕ) : Option (Option Int32) :=
  if pos < length then do
    let c ← text[pos]?
    if c = ascii '-' ∨ c = ascii '+' then parseNumber text length (pos + 1) (c == ascii '-')
    else parseNumber text length pos false
  else parseNumber text length pos false

/-- The part of `command_parse` after the name of a command has been recognised. -/
def parseEntry (text : List UInt8) (length stop : ℕ) (e : CommandEntry) (out : MotionCommand) :
    Option (CommandParseResult × MotionCommand) := do
  let pos ← Cursor.skip whitespace text (length - stop) stop
  if !e.argument then
    some (if pos ≠ length then (.argument, out) else (.ok, ⟨e.type, 0⟩))
  else
    let value ← parseArgument text length pos
    some (match value with
      | none => (.argument, out)
      | some v => (.ok, ⟨e.type, v⟩))

/-- The loop over the table. -/
def parseTable (text : List UInt8) (length start stop : ℕ) (out : MotionCommand) :
    List CommandEntry → Option (CommandParseResult × MotionCommand)
  | [] => some (.unknown, out)
  | e :: entries =>
    if e.bytes.length ≠ stop - start then parseTable text length start stop out entries
    else do
      let token ← Cursor.read text (stop - start) start
      if token ≠ e.bytes then parseTable text length start stop out entries
      else parseEntry text length stop e out

/-- `command_parse`: the result and `*out` after the call, from `*out` before it. -/
def commandParse (text : List UInt8) (out : MotionCommand) :
    Option (CommandParseResult × MotionCommand) :=
  if commandLineCapacity ≤ text.length then some (.tooLong, out)
  else do
    let start ← Cursor.skip whitespace text text.length 0
    let length ← Cursor.trim whitespace text start (text.length - start)
    if start = length then some (.empty, out)
    else
      let stop ← Cursor.skip (fun c => !whitespace c) text (length - start) start
      parseTable text length start stop out commands

/-! ### The grammar -/

/-- A frame without the surrounding white space. -/
def stripped (text : List UInt8) : List UInt8 := (text.dropWhile whitespace).rdropWhile whitespace

/-- The first maximal part without white space. -/
def token (s : List UInt8) : List UInt8 := s.takeWhile fun c => !whitespace c

/-- What follows the token. -/
def afterToken (s : List UInt8) : List UInt8 := s.dropWhile fun c => !whitespace c

/-- An optional single sign and one or more digits, with their signed decimal value. -/
def IsNumber (s : List UInt8) (value : ℤ) : Prop :=
  ∃ sign digits, s = sign ++ digits ∧ (sign = [] ∨ sign = [ascii '+'] ∨ sign = [ascii '-']) ∧
    digits ≠ [] ∧ (∀ c ∈ digits, digit c = true) ∧
    value = if sign = [ascii '-'] then -(decimal digits : ℤ) else decimal digits

/-- White space followed by a number. -/
def IsArgument (s : List UInt8) (value : ℤ) : Prop :=
  ∃ blank number, s = blank ++ number ∧ blank ≠ [] ∧ (∀ c ∈ blank, whitespace c = true) ∧
    IsNumber number value

/-- What follows the name of a command is right for it, and has the value `v`. -/
def CommandEntry.Admits (e : CommandEntry) (rest : List UInt8) (v : Int32) : Prop :=
  if e.argument then IsArgument rest v.toInt else rest = [] ∧ v = 0

/-- A frame without surrounding white space denotes a command.  The value of a command is a 32-bit
integer, so the value of its argument lies between `-2 ^ 31` and `2 ^ 31 - 1`. -/
def Denotes (s : List UInt8) (command : MotionCommand) : Prop :=
  ∃ e ∈ commands, e.bytes = token s ∧ command.type = e.type ∧
    e.Admits (afterToken s) command.value

/-! ### Digits -/

section Digits

variable {text : List UInt8} {limit value : UInt32} {n pos : ℕ} {c : UInt8}

/-- The value of a digit. -/
lemma toNat_digitValue (hc : digit c = true) :
    (c - ascii '0').toUInt32.toNat = c.toNat - (ascii '0').toNat ∧
      c.toNat - (ascii '0').toNat ≤ 9 := by
  obtain ⟨hlo, hhi⟩ := digit_iff.mp hc
  have hzero : (ascii '0').toNat = 48 := by decide
  have hle : ascii '0' ≤ c := by
    rw [UInt8.le_iff_toNat_le, hzero]
    exact hlo
  rw [UInt8.toNat_toUInt32, UInt8.toNat_sub_of_le _ _ hle, hzero]
  omega

/-- **Digit loop.**  Inside the frame, and while the value is within the limit, no step of the loop
wraps; it has a value exactly when all positions are digits whose value is within the limit. -/
theorem parseDigits_spec (h : pos + n ≤ text.length) (hlimit : 9 ≤ limit.toNat)
    (hvalue : value.toNat ≤ limit.toNat) :
    ∃ r, parseDigits text limit n pos value = some r ∧
      ∀ w, r = some w ↔ (∀ c ∈ Cursor.view text n pos, digit c = true) ∧
        decimalFrom value.toNat (Cursor.view text n pos) ≤ limit.toNat ∧
        w.toNat = decimalFrom value.toNat (Cursor.view text n pos) := by
  induction n generalizing pos value with
  | zero =>
    refine ⟨some value, rfl, fun w => ?_⟩
    rw [Cursor.view_zero, decimalFrom_nil]
    constructor
    · rintro ⟨⟩
      exact ⟨by simp, hvalue, rfl⟩
    · rintro ⟨-, -, hw⟩
      rw [UInt32.toNat_inj.mp hw]
  | succ n ih =>
    obtain ⟨c, hread, hview⟩ := Cursor.view_succ h
    rw [hview, parseDigits, hread]
    by_cases hc : digit c = true
    · obtain ⟨hd, hd9⟩ := toNat_digitValue hc
      have hsub : (c - ascii '0').toUInt32 ≤ limit := by
        rw [UInt32.le_iff_toNat_le, hd]
        omega
      have hbound : (limit - (c - ascii '0').toUInt32).toNat =
          limit.toNat - (c.toNat - (ascii '0').toNat) := by
        rw [UInt32.toNat_sub_of_le _ _ hsub, hd]
      have hten : (10 : UInt32).toNat = 10 := by decide
      simp only [Option.bind_eq_bind, Option.bind_some, hc, Bool.not_true, Bool.false_eq_true,
        if_false, checkedSub, if_pos hsub, List.forall_mem_cons, true_and, decimalFrom_cons]
      by_cases hover : (limit - (c - ascii '0').toUInt32) / 10 < value
      · -- the limit check rejects the digit, and further digits only add to the value
        have hgt : limit.toNat < value.toNat * 10 + (c.toNat - (ascii '0').toNat) := by
          rw [UInt32.lt_iff_toNat_lt, UInt32.toNat_div, hbound, hten] at hover
          omega
        have hmore := le_decimalFrom (value.toNat * 10 + (c.toNat - (ascii '0').toNat))
          (Cursor.view text n (pos + 1))
        refine ⟨none, if_pos hover, fun w => ⟨nofun, fun hboth => absurd hboth.2.1 (by omega)⟩⟩
      · -- the limit check passes, so the new value is within the limit and does not wrap
        have hle : value.toNat * 10 + (c.toNat - (ascii '0').toNat) ≤ limit.toNat := by
          rw [UInt32.lt_iff_toNat_lt, UInt32.toNat_div, hbound, hten] at hover
          omega
        have hlt := limit.toNat_lt
        have hnext : (value * 10 + (c - ascii '0').toUInt32).toNat =
            value.toNat * 10 + (c.toNat - (ascii '0').toNat) := by
          rw [UInt32.toNat_add, UInt32.toNat_mul, hd, hten]
          omega
        have hshift : checkedShift value (c - ascii '0').toUInt32 =
            some (value * 10 + (c - ascii '0').toUInt32) := by
          refine if_pos ?_
          rw [hd]
          omega
        rw [if_neg hover, hshift, Option.bind_some, ← hnext]
        exact ih (by omega) (by omega)
    · refine ⟨none, by simp [hc], fun w => ⟨nofun, fun hboth => ?_⟩⟩
      exact absurd (hboth.1 c (by simp)) hc

/-- A small unsigned value keeps its value as a signed one. -/
lemma toInt_toInt32 {w : UInt32} (h : w.toNat < 2 ^ 31) : w.toInt32.toInt = w.toNat := by
  have hbits : w.toInt32.toInt = w.toBitVec.toInt := rfl
  rw [hbits, BitVec.toInt_eq_toNat_of_lt]
  · rfl
  · change 2 * w.toNat < 2 ^ 32
    omega

/-- Within its limit the conversion is exact. -/
lemma toInt_signedValue {negative : Bool} {w : UInt32}
    (h : w.toNat ≤ if negative then 2147483648 else 2147483647) :
    (signedValue negative w).toInt = if negative then -(w.toNat : ℤ) else w.toNat := by
  cases negative with
  | false =>
    have h' : w.toNat ≤ 2147483647 := by simpa using h
    exact toInt_toInt32 (by omega)
  | true =>
    simp only [signedValue, if_true] at h ⊢
    by_cases hmin : w = 2147483648
    · rw [if_pos hmin, hmin]
      decide
    · have hlt : w.toNat < 2 ^ 31 := by
        have hne : w.toNat ≠ 2147483648 := by
          intro heq
          exact hmin (UInt32.toNat_inj.mp heq)
        omega
      rw [if_neg hmin, Int32.toInt_neg, toInt_toInt32 hlt, Int.bmod_def]
      split_ifs <;> omega

/-- **Number.**  A number has the value of its digits, with the sign, when the digits are there and
the value is a 32-bit integer. -/
theorem parseNumber_spec {length : ℕ} (negative : Bool) (hpos : pos ≤ length)
    (hlength : length ≤ text.length) :
    ∃ r, parseNumber text length pos negative = some r ∧
      ∀ v : Int32, r = some v ↔ Cursor.view text (length - pos) pos ≠ [] ∧
        (∀ c ∈ Cursor.view text (length - pos) pos, digit c = true) ∧
        v.toInt = if negative then -(decimal (Cursor.view text (length - pos) pos) : ℤ)
          else decimal (Cursor.view text (length - pos) pos) := by
  unfold parseNumber
  by_cases hend : pos = length
  · refine ⟨none, if_pos hend, fun v => ⟨nofun, fun h => ?_⟩⟩
    rw [hend, Nat.sub_self, Cursor.view_zero] at h
    exact absurd rfl h.1
  have hne : Cursor.view text (length - pos) pos ≠ [] := by
    rw [← List.length_pos_iff, Cursor.length_view (by omega)]
    omega
  have hlimit : (if negative = true then (2147483648 : UInt32) else 2147483647).toNat =
      if negative = true then 2147483648 else 2147483647 := by cases negative <;> rfl
  have hinside : pos + (length - pos) ≤ text.length := by omega
  have hnine : 9 ≤ (if negative = true then (2147483648 : UInt32) else 2147483647).toNat := by
    cases negative <;> decide
  have hstart : (0 : UInt32).toNat ≤
      (if negative = true then (2147483648 : UInt32) else 2147483647).toNat := by simp
  obtain ⟨r, hr, hiff⟩ := parseDigits_spec hinside hnine hstart
  rw [if_neg hend]
  dsimp only
  rw [hr]
  refine ⟨r.map (signedValue negative), rfl, fun v => ?_⟩
  rw [hlimit] at hiff
  have hzero : (0 : UInt32).toNat = 0 := rfl
  rw [hzero] at hiff
  change ∀ w, r = some w ↔ _ ∧ decimal _ ≤ _ ∧ _ = decimal _ at hiff
  generalize Cursor.view text (length - pos) pos = ds at hne hiff ⊢
  constructor
  · intro h
    obtain ⟨w, hw, rfl⟩ := Option.map_eq_some_iff.mp h
    obtain ⟨hall, hle, hval⟩ := (hiff w).mp hw
    refine ⟨hne, hall, ?_⟩
    rw [toInt_signedValue (by rw [hval]; exact hle), hval]
  · rintro ⟨-, hall, hv⟩
    have hlo := v.le_toInt
    have hhi := v.toInt_lt
    have hle : decimal ds ≤ if negative then 2147483648 else 2147483647 := by
      cases negative <;> simp only [if_true, Bool.false_eq_true, if_false] at hv ⊢ <;> omega
    have hw : (UInt32.ofNat (decimal ds)).toNat = decimal ds := by
      rw [UInt32.toNat_ofNat']
      cases negative <;> simp only [if_true, Bool.false_eq_true, if_false] at hle <;> omega
    rw [(hiff (UInt32.ofNat (decimal ds))).mpr ⟨hall, hle, hw⟩, Option.map_some]
    congr 1
    rw [← Int32.toInt_inj, hv, toInt_signedValue (by rw [hw]; exact hle), hw]

end Digits

/-! ### Arguments -/

section Arguments

variable {text s : List UInt8} {c : UInt8} {value : ℤ} {length pos stop : ℕ}

/-- Signs and digits are neither white space nor each other. -/
lemma not_whitespace_of_digit (h : digit c = true) :
    whitespace c = false ∧ c ≠ ascii '-' ∧ c ≠ ascii '+' := by
  obtain ⟨hlo, hhi⟩ := digit_iff.mp h
  have hne : ∀ d : UInt8, d.toNat < 48 → c ≠ d := by
    rintro d hd rfl
    omega
  refine ⟨?_, hne _ (by decide), hne _ (by decide)⟩
  simp only [whitespace, Bool.or_eq_false_iff, beq_eq_false_iff_ne]
  exact ⟨⟨⟨hne _ (by decide), hne _ (by decide)⟩, hne _ (by decide)⟩, hne _ (by decide)⟩

/-- After a sign come the digits. -/
lemma isNumber_sign (hc : c = ascii '-' ∨ c = ascii '+') :
    IsNumber (c :: s) value ↔ s ≠ [] ∧ (∀ x ∈ s, digit x = true) ∧
      value = if c == ascii '-' then -(decimal s : ℤ) else decimal s := by
  have hsigns : ascii '+' ≠ ascii '-' := by decide
  constructor
  · rintro ⟨sign, digits, heq, hsign, hne, hall, hval⟩
    rcases hsign with rfl | rfl | rfl
    · -- the sign is not a digit
      have hdigit : digit c = true := hall c (by rw [← List.nil_append digits, ← heq]; simp)
      obtain ⟨-, hminus, hplus⟩ := not_whitespace_of_digit hdigit
      exact absurd hc (by simp [hminus, hplus])
    all_goals
      obtain ⟨rfl, rfl⟩ : c = _ ∧ s = digits := by simpa using heq
      exact ⟨hne, hall, by simpa [hsigns] using hval⟩
  · rintro ⟨hne, hall, hval⟩
    refine ⟨[c], s, rfl, ?_, hne, hall, ?_⟩
    · rcases hc with rfl | rfl <;> simp
    · rcases hc with rfl | rfl <;> simpa [hsigns] using hval

/-- Without a sign there are digits only. -/
lemma isNumber_unsigned (hs : ∀ c ∈ s.head?, ¬ (c = ascii '-' ∨ c = ascii '+')) :
    IsNumber s value ↔ s ≠ [] ∧ (∀ x ∈ s, digit x = true) ∧ value = decimal s := by
  constructor
  · rintro ⟨sign, digits, rfl, hsign, hne, hall, hval⟩
    rcases hsign with rfl | rfl | rfl
    · exact ⟨hne, hall, by simpa using hval⟩
    all_goals exact absurd (hs _ rfl) (by simp)
  · rintro ⟨hne, hall, hval⟩
    exact ⟨[], s, rfl, Or.inl rfl, hne, hall, by simpa using hval⟩

/-- A number has one value. -/
lemma IsNumber.unique {value' : ℤ} (h : IsNumber s value) (h' : IsNumber s value') :
    value = value' := by
  cases s with
  | nil =>
    have hnone := (isNumber_unsigned (by simp)).mp h
    exact absurd rfl hnone.1
  | cons c s =>
    by_cases hc : c = ascii '-' ∨ c = ascii '+'
    · rw [isNumber_sign hc] at h h'
      exact h.2.2.trans h'.2.2.symm
    · rw [isNumber_unsigned (by simpa using hc)] at h h'
      exact h.2.2.trans h'.2.2.symm

/-- **Argument.**  From its optional sign on, an argument is a number. -/
theorem parseArgument_spec (hpos : pos ≤ length) (hlength : length ≤ text.length) :
    ∃ r, parseArgument text length pos = some r ∧
      ∀ v : Int32, r = some v ↔ IsNumber (Cursor.view text (length - pos) pos) v.toInt := by
  unfold parseArgument
  by_cases hlt : pos < length
  · obtain ⟨k, hk⟩ : ∃ k, length - pos = k + 1 := ⟨length - pos - 1, by omega⟩
    obtain ⟨c, hread, hview⟩ := Cursor.view_succ (show pos + (k + 1) ≤ text.length by omega)
    rw [if_pos hlt, hread, hk, hview]
    by_cases hc : c = ascii '-' ∨ c = ascii '+'
    · have hnext : pos + 1 ≤ length := hlt
      obtain ⟨r, hr, hiff⟩ := parseNumber_spec (c == ascii '-') hnext hlength
      have hrest : length - (pos + 1) = k := by omega
      rw [hrest] at hiff
      refine ⟨r, by simp [hc, hr], fun v => ?_⟩
      rw [hiff, isNumber_sign hc]
    · obtain ⟨r, hr, hiff⟩ := parseNumber_spec false hpos hlength
      rw [hk, hview] at hiff
      refine ⟨r, by simp [hc, hr], fun v => ?_⟩
      rw [hiff, isNumber_unsigned (by simpa using hc)]
      simp
  · obtain ⟨r, hr, hiff⟩ := parseNumber_spec false hpos hlength
    have hempty : length - pos = 0 := by omega
    rw [hempty, Cursor.view_zero] at hiff ⊢
    rw [if_neg hlt]
    refine ⟨r, hr, fun v => ?_⟩
    rw [hiff, isNumber_unsigned (by simp)]
    simp

/-- A number does not begin with white space. -/
lemma dropWhile_of_isNumber (h : IsNumber s value) : s.dropWhile whitespace = s := by
  obtain ⟨sign, digits, rfl, hsign, hne, hall, -⟩ := h
  obtain ⟨d, ds, rfl⟩ := List.exists_cons_of_ne_nil hne
  have hdigit := (not_whitespace_of_digit (hall d (by simp))).1
  have hplus : whitespace (ascii '+') = false := by decide
  have hminus : whitespace (ascii '-') = false := by decide
  rcases hsign with rfl | rfl | rfl
  · simp [hdigit]
  · simp [hplus]
  · simp [hminus]

/-- What follows a token is an argument when a number follows the white space. -/
lemma isArgument_afterToken :
    IsArgument (afterToken s) value ↔ IsNumber ((afterToken s).dropWhile whitespace) value := by
  constructor
  · rintro ⟨blank, number, heq, -, hall, hnumber⟩
    rw [heq, List.dropWhile_append_of_pos hall, dropWhile_of_isNumber hnumber]
    exact hnumber
  · intro h
    refine ⟨(afterToken s).takeWhile whitespace, _, List.takeWhile_append_dropWhile.symm, ?_,
      fun c hc => List.mem_takeWhile_imp hc, h⟩
    -- what follows the token is not empty, so it begins with white space
    have hne : afterToken s ≠ [] := by
      intro hnil
      rw [hnil] at h
      obtain ⟨sign, digits, heq, -, hdigits, -⟩ := h
      exact hdigits (List.append_eq_nil_iff.mp heq.symm).2
    obtain ⟨c, cs, hcons⟩ := List.exists_cons_of_ne_nil hne
    have hhead : whitespace c = true := by
      have hfirst : (afterToken s).head hne = c := by simp only [hcons, List.head_cons]
      have hnot : (!whitespace ((afterToken s).head hne)) = false :=
        List.head_dropWhile_not (fun c => !whitespace c) hne
      rw [hfirst] at hnot
      simpa using hnot
    rw [hcons]
    simp [hhead]

end Arguments

/-! ### Frames -/

section Frames

variable {text : List UInt8} {start length stop : ℕ} {out : MotionCommand}

/-- The names of the table are different. -/
lemma commands_bytes_injective :
    ∀ e ∈ commands, ∀ e' ∈ commands, e.bytes = e'.bytes → e = e' := by decide

/-- A frame denotes at most one command. -/
lemma Denotes.unique {s : List UInt8} {command command' : MotionCommand} (h : Denotes s command)
    (h' : Denotes s command') : command = command' := by
  obtain ⟨e, hmem, hbytes, htype, hadmits⟩ := h
  obtain ⟨e', hmem', hbytes', htype', hadmits'⟩ := h'
  obtain rfl := commands_bytes_injective e hmem e' hmem' (hbytes.trans hbytes'.symm)
  have hvalue : command.value = command'.value := by
    unfold CommandEntry.Admits at hadmits hadmits'
    split_ifs at hadmits hadmits'
    · rw [isArgument_afterToken] at hadmits hadmits'
      exact Int32.toInt_inj.mp (hadmits.unique hadmits')
    · exact hadmits.2.trans hadmits'.2.symm
  cases command
  cases command'
  simp_all

/-- **Entry.**  After a name, the frame is accepted with the value that the rest of it has for this
command, and refused without a trace when it has none. -/
theorem parseEntry_spec (out : MotionCommand) (e : CommandEntry) (hstop : stop ≤ length)
    (hlength : length ≤ text.length)
    {rest : List UInt8} (hrest : Cursor.view text (length - stop) stop = rest)
    (hargument : ∀ v, IsArgument rest v ↔ IsNumber (rest.dropWhile whitespace) v)
    (hblank : rest.dropWhile whitespace = [] ↔ rest = []) :
    ∃ r o, parseEntry text length stop e out = some (r, o) ∧
      (r = .ok ∧ o.type = e.type ∧ e.Admits rest o.value ∨
        r = .argument ∧ o = out ∧ ∀ v, ¬ e.Admits rest v) := by
  have hskip := Cursor.skip_eq whitespace (show stop + (length - stop) ≤ text.length by omega)
  rw [hrest] at hskip
  have hsplit : rest.length = (rest.takeWhile whitespace).length +
      (rest.dropWhile whitespace).length := by
    rw [← List.length_append, List.takeWhile_append_dropWhile]
  have hwhole : rest.length = length - stop := by
    rw [← hrest, Cursor.length_view (by omega)]
  unfold parseEntry
  rw [hskip, Option.bind_eq_bind, Option.bind_some]
  cases hkind : e.argument with
  | false =>
    have hadmits : ∀ v, e.Admits rest v ↔ rest = [] ∧ v = 0 := by
      intro v
      simp [CommandEntry.Admits, hkind]
    by_cases hnil : rest = []
    · refine ⟨.ok, ⟨e.type, 0⟩, ?_, Or.inl ⟨rfl, rfl, (hadmits 0).mpr ⟨hnil, rfl⟩⟩⟩
      have hend : stop + (rest.takeWhile whitespace).length = length := by
        rw [hnil] at hwhole ⊢
        simp at hwhole ⊢
        omega
      simp [hend]
    · refine ⟨.argument, out, ?_, Or.inr ⟨rfl, rfl, fun v h => hnil ((hadmits v).mp h).1⟩⟩
      have hmore : 0 < (rest.dropWhile whitespace).length :=
        List.length_pos_iff.mpr (mt hblank.mp hnil)
      have hend : stop + (rest.takeWhile whitespace).length ≠ length := by omega
      simp [hend]
  | true =>
    have hadmits : ∀ v, e.Admits rest v ↔ IsNumber (rest.dropWhile whitespace) v.toInt := by
      intro v
      simp [CommandEntry.Admits, hkind, hargument]
    have hpos : stop + (rest.takeWhile whitespace).length ≤ length := by omega
    obtain ⟨r, hr, hiff⟩ := parseArgument_spec hpos hlength
    have hview : Cursor.view text (length - (stop + (rest.takeWhile whitespace).length))
        (stop + (rest.takeWhile whitespace).length) = rest.dropWhile whitespace := by
      have hdrop := Cursor.drop_view text (length - stop) stop (rest.takeWhile whitespace).length
      rw [hrest, Nat.sub_sub, Cursor.drop_length_takeWhile] at hdrop
      exact hdrop.symm
    rw [hview] at hiff
    simp only [Bool.not_true, Bool.false_eq_true, if_false]
    rw [hr, Option.bind_eq_bind, Option.bind_some]
    cases r with
    | none =>
      refine ⟨.argument, out, rfl, Or.inr ⟨rfl, rfl, fun v h => ?_⟩⟩
      exact absurd ((hiff v).mpr ((hadmits v).mp h)) nofun
    | some v => exact ⟨.ok, ⟨e.type, v⟩, rfl, Or.inl ⟨rfl, rfl, (hadmits v).mpr ((hiff v).mp rfl)⟩⟩

/-- The loop over the table stops at the entry with the name that was read. -/
lemma parseTable_eq {name : List UInt8} (hbound : stop ≤ text.length) (hstart : start ≤ stop)
    (hname : Cursor.view text (stop - start) start = name) (entries : List CommandEntry) :
    parseTable text length start stop out entries =
      match entries.find? fun e => e.bytes = name with
      | none => some (.unknown, out)
      | some e => parseEntry text length stop e out := by
  have hinside : start + (stop - start) ≤ text.length := by omega
  have hread := Cursor.read_eq hinside
  have hlen := Cursor.length_view hinside
  rw [hname] at hread hlen
  induction entries with
  | nil => rfl
  | cons e entries ih =>
    by_cases he : e.bytes = name
    · rw [parseTable, List.find?_cons_of_pos (by simpa using he), if_neg (by rw [he, hlen]; simp),
        hread]
      simp [he]
    · rw [List.find?_cons_of_neg (by simpa using he), ← ih, parseTable]
      split_ifs with hlength
      · rfl
      · have hother : name ≠ e.bytes := by
          intro h
          exact he h.symm
        rw [hread, Option.bind_eq_bind, Option.bind_some, if_pos hother]

/-- After the token of a stripped frame there is not only white space. -/
lemma dropWhile_afterToken_eq_nil :
    (afterToken (stripped text)).dropWhile whitespace = [] ↔ afterToken (stripped text) = [] := by
  refine ⟨fun h => ?_, fun h => by rw [h]; rfl⟩
  by_contra hne
  have hall := List.dropWhile_eq_nil_iff.mp h
  have hsuffix : afterToken (stripped text) <:+ stripped text := List.dropWhile_suffix _
  have hne' : stripped text ≠ [] := by
    intro hnil
    have hempty : afterToken (stripped text) <:+ [] := hnil ▸ hsuffix
    exact hne (List.suffix_nil.mp hempty)
  have hlast : (afterToken (stripped text)).getLast hne = (stripped text).getLast hne' :=
    hsuffix.getLast hne
  have hnot := List.rdropWhile_last_not whitespace (text.dropWhile whitespace) hne'
  have hblank := hall _ (List.getLast_mem hne)
  rw [hlast] at hblank
  exact hnot hblank

/-- The outcome of a frame, with the output that belongs to it. -/
inductive Parses (text : List UInt8) (out : MotionCommand) :
    CommandParseResult → MotionCommand → Prop
  | tooLong (hlong : 64 ≤ text.length) : Parses text out .tooLong out
  | empty (hshort : text.length < 64) (hnil : stripped text = []) : Parses text out .empty out
  | unknown (hshort : text.length < 64) (hne : stripped text ≠ [])
      (hname : ∀ e ∈ commands, e.bytes ≠ token (stripped text)) : Parses text out .unknown out
  | ok {command : MotionCommand} (hshort : text.length < 64) (hne : stripped text ≠ [])
      (hdenotes : Denotes (stripped text) command) : Parses text out .ok command
  | argument (hshort : text.length < 64) (hne : stripped text ≠ [])
      (hname : ∃ e ∈ commands, e.bytes = token (stripped text))
      (hnone : ∀ command, ¬ Denotes (stripped text) command) : Parses text out .argument out

/-- The cursors of `command_parse` enclose the stripped frame and its token. -/
lemma commandParse_eq (out : MotionCommand) (hshort : text.length < 64) :
    ∃ start length, length ≤ text.length ∧ start + (stripped text).length = length ∧
      Cursor.view text (stripped text).length start = stripped text ∧
      commandParse text out =
        if stripped text = [] then some (.empty, out)
        else
          parseTable text length start (start + (token (stripped text)).length) out commands := by
  have hskip := Cursor.skip_eq whitespace (show 0 + text.length ≤ text.length by omega)
  have hwhole : Cursor.view text text.length 0 = text := by simp [Cursor.view]
  rw [hwhole, Nat.zero_add] at hskip
  set start := (text.takeWhile whitespace).length with hstart
  have hle : start ≤ text.length := (List.takeWhile_prefix whitespace).length_le
  have hrest : Cursor.view text (text.length - start) start = text.dropWhile whitespace := by
    rw [Cursor.view, Cursor.drop_length_takeWhile, ← Cursor.drop_length_takeWhile, ← hstart,
      List.take_of_length_le (by simp)]
  have htrim :=
    Cursor.trim_eq whitespace (show start + (text.length - start) ≤ text.length by omega)
  rw [hrest] at htrim
  change _ = some (start + (stripped text).length) at htrim
  have hprefix : stripped text <+: text.dropWhile whitespace := List.rdropWhile_prefix whitespace _
  have hlength : start + (stripped text).length ≤ text.length := by
    have hsub := hprefix.length_le
    rw [← hrest, Cursor.length_view (by omega)] at hsub
    omega
  have hview : Cursor.view text (stripped text).length start = stripped text := by
    have hinside : (stripped text).length ≤ text.length - start := by omega
    rw [← Cursor.take_view hinside, hrest]
    exact (List.prefix_iff_eq_take.mp hprefix).symm
  refine ⟨start, start + (stripped text).length, hlength, rfl, hview, ?_⟩
  have hnot : ¬ commandLineCapacity ≤ text.length := not_le.mpr hshort
  have hempty : start = start + (stripped text).length ↔ stripped text = [] := by
    rw [← List.length_eq_zero_iff]
    omega
  have hscan := Cursor.skip_eq (fun c => !whitespace c) hlength
  rw [hview] at hscan
  unfold commandParse
  rw [if_neg hnot, hskip, Option.bind_eq_bind, Option.bind_some, htrim, Option.bind_some]
  simp only [hempty, Nat.add_sub_cancel_left, hscan, Option.bind_some]
  rfl

/-- **Outcome.**  `command_parse` has a result for every frame, and it is the outcome. -/
theorem commandParse_parses (text : List UInt8) (out : MotionCommand) :
    ∃ r o, commandParse text out = some (r, o) ∧ Parses text out r o := by
  by_cases hlong : 64 ≤ text.length
  · exact ⟨.tooLong, out, if_pos hlong, .tooLong hlong⟩
  have hshort : text.length < 64 := not_le.mp hlong
  obtain ⟨start, length, hlength, rfl, hview, hparse⟩ := commandParse_eq out hshort
  rw [hparse]
  by_cases hnil : stripped text = []
  · exact ⟨.empty, out, if_pos hnil, .empty hshort hnil⟩
  rw [if_neg hnil]
  have htoken : (token (stripped text)).length ≤ (stripped text).length :=
    (List.takeWhile_prefix _).length_le
  have hname : Cursor.view text (start + (token (stripped text)).length - start) start =
      token (stripped text) := by
    rw [Nat.add_sub_cancel_left, ← Cursor.take_view htoken, hview]
    exact (List.prefix_iff_eq_take.mp (List.takeWhile_prefix _)).symm
  have hrest : Cursor.view text
      (start + (stripped text).length - (start + (token (stripped text)).length))
      (start + (token (stripped text)).length) = afterToken (stripped text) := by
    rw [Nat.add_sub_add_left, ← Cursor.drop_view, hview]
    exact Cursor.drop_length_takeWhile _ _
  rw [parseTable_eq (by omega) (by omega) hname]
  cases hfind : commands.find? fun e => e.bytes = token (stripped text) with
  | none =>
    refine ⟨.unknown, out, rfl, .unknown hshort hnil fun e he => ?_⟩
    simpa using List.find?_eq_none.mp hfind e he
  | some e =>
    have hmem : e ∈ commands := List.mem_of_find?_eq_some hfind
    have hbytes : e.bytes = token (stripped text) := by simpa using List.find?_some hfind
    obtain ⟨r, o, hentry, hcases⟩ := parseEntry_spec out e (by omega) hlength hrest
      (fun v => isArgument_afterToken) dropWhile_afterToken_eq_nil
    refine ⟨r, o, hentry, ?_⟩
    rcases hcases with ⟨rfl, htype, hadmits⟩ | ⟨rfl, rfl, hnone⟩
    · exact .ok hshort hnil ⟨e, hmem, hbytes, htype, hadmits⟩
    · refine .argument hshort hnil ⟨e, hmem, hbytes⟩ ?_
      rintro command ⟨e', hmem', hbytes', -, hadmits⟩
      obtain rfl := commands_bytes_injective e' hmem' e hmem (hbytes'.trans hbytes.symm)
      exact hnone _ hadmits

/-- **Grammar.**  `command_parse` always has a result: no read is outside of the frame and no
unsigned step wraps.  The frame is too long, empty, unknown or accepted exactly as the grammar says,
and in all remaining cases its argument is refused; the output is the one command that the frame
denotes if it is accepted, and unchanged otherwise. -/
theorem command_parse_grammar (text : List UInt8) (out : MotionCommand) :
    ∃ r o, commandParse text out = some (r, o) ∧
      (r = .tooLong ↔ 64 ≤ text.length) ∧
      (r = .empty ↔ text.length < 64 ∧ stripped text = []) ∧
      (r = .unknown ↔ text.length < 64 ∧ stripped text ≠ [] ∧
        ∀ e ∈ commands, e.bytes ≠ token (stripped text)) ∧
      (r = .ok ↔ text.length < 64 ∧ stripped text ≠ [] ∧
        ∃ command, Denotes (stripped text) command) ∧
      (r = .ok → ∀ command, Denotes (stripped text) command ↔ command = o) ∧
      (r ≠ .ok → o = out) := by
  obtain ⟨r, o, hparse, houtcome⟩ := commandParse_parses text out
  refine ⟨r, o, hparse, ?_⟩
  cases houtcome with
  | tooLong hlong =>
    have hnot : ¬ text.length < 64 := not_lt.mpr hlong
    exact ⟨⟨fun _ => hlong, fun _ => rfl⟩, ⟨nofun, fun h => absurd h.1 hnot⟩,
      ⟨nofun, fun h => absurd h.1 hnot⟩, ⟨nofun, fun h => absurd h.1 hnot⟩, nofun, fun _ => rfl⟩
  | empty hshort hnil =>
    exact ⟨⟨nofun, fun h => absurd hshort (not_lt.mpr h)⟩, ⟨fun _ => ⟨hshort, hnil⟩, fun _ => rfl⟩,
      ⟨nofun, fun h => absurd hnil h.2.1⟩, ⟨nofun, fun h => absurd hnil h.2.1⟩, nofun,
      fun _ => rfl⟩
  | unknown hshort hne hname =>
    have hnone : ¬ ∃ command, Denotes (stripped text) command := by
      rintro ⟨command, e, hmem, hbytes, -⟩
      exact hname e hmem hbytes
    exact ⟨⟨nofun, fun h => absurd hshort (not_lt.mpr h)⟩, ⟨nofun, fun h => absurd h.2 hne⟩,
      ⟨fun _ => ⟨hshort, hne, hname⟩, fun _ => rfl⟩, ⟨nofun, fun h => absurd h.2.2 hnone⟩, nofun,
      fun _ => rfl⟩
  | ok hshort hne hdenotes =>
    obtain ⟨e, hmem, hbytes, -⟩ := id hdenotes
    exact ⟨⟨nofun, fun h => absurd hshort (not_lt.mpr h)⟩, ⟨nofun, fun h => absurd h.2 hne⟩,
      ⟨nofun, fun h => absurd hbytes (h.2.2 e hmem)⟩,
      ⟨fun _ => ⟨hshort, hne, _, hdenotes⟩, fun _ => rfl⟩,
      fun _ command => ⟨fun h => h.unique hdenotes, fun h => h ▸ hdenotes⟩, fun h => absurd rfl h⟩
  | argument hshort hne hname hnone =>
    obtain ⟨e, hmem, hbytes⟩ := hname
    exact ⟨⟨nofun, fun h => absurd hshort (not_lt.mpr h)⟩, ⟨nofun, fun h => absurd h.2 hne⟩,
      ⟨nofun, fun h => absurd hbytes (h.2.2 e hmem)⟩,
      ⟨nofun, fun h => absurd h.2.2.choose_spec (hnone _)⟩, nofun, fun _ => rfl⟩

end Frames

end MotionFirmware
