import MotionFirmware.Drivers.FormatWidth
import MotionFirmware.Protocol.Command

/-!
# The text of a command

`command_name` and `command_parse_error`, and the text of a command: its name and, for the commands
with an argument, a space and the value as `tiny_vformat` renders it with `%ld`.  `command_parse`
reads this text back, also between white space, and what it accepts is rendered to a text that it
reads as the same command.

The formatter passes the magnitude of a number on as an unsigned number; the parser accumulates an
unsigned number up to a limit that depends on the sign.  Both agree with the decimal numeral of the
integer.
-/

namespace MotionFirmware

/-- `command_name`; nothing stands for a value outside of the enumeration. -/
def commandName (type : Option CommandType) : String :=
  match commands.find? fun e => some e.type = type with
  | some e => e.name
  | none => "UNKNOWN"

/-- `command_parse_error`; nothing stands for a value outside of the enumeration. -/
def commandParseError : Option CommandParseResult → String
  | some .ok => "OK"
  | some .empty => "EMPTY"
  | some .unknown => "UNKNOWN_COMMAND"
  | some .argument => "INVALID_ARGUMENT"
  | some .tooLong => "LINE_TOO_LONG"
  | none => "INTERNAL"

/-- The commands with an argument: `MOVE`, `MOVE_REL` and `SPEED`. -/
def CommandType.takesArgument (t : CommandType) : Bool :=
  t == .moveAbs || t == .moveRel || t == .setSpeed

/-- The format `%ld`. -/
def longDecimal : CString := ⟨literal "%ld", by decide⟩

/-- The text of a command, if the formatter succeeds in the given buffer. -/
def commandText [DoubleRounding] (out : ℕ → UInt8) (capacity : ℕ) (memory : Stream' VaArg)
    (command : MotionCommand) : Option (List UInt8) :=
  if command.type.takesArgument then
    (formatted out capacity longDecimal (slots memory [.long command.value])).map fun number =>
      literal (commandName (some command.type)) ++ ascii ' ' :: number
  else some (literal (commandName (some command.type)))

/-- The numeral of an integer. -/
def integerText (value : ℤ) : List UInt8 :=
  (if value < 0 then [ascii '-'] else []) ++ decimalText value.natAbs

variable {text before after name rest : List UInt8} {command : MotionCommand} {value : ℤ}

/-! ### Numerals -/

/-- A numeral is a number. -/
lemma isNumber_integerText (value : ℤ) : IsNumber (integerText value) value := by
  refine ⟨_, _, rfl, ?_, decimalText_ne_nil _, fun c hc => digit_of_mem_decimalText hc, ?_⟩
  · split_ifs
    · exact Or.inr (Or.inr rfl)
    · exact Or.inl rfl
  · rw [decimal_decimalText]
    by_cases h : value < 0
    · rw [if_pos h, if_pos rfl]
      omega
    · rw [if_neg h, if_neg (by simp)]
      omega

/-- The numeral of a 32-bit integer has at most eleven characters. -/
lemma length_integerText_le (v : Int32) : (integerText v.toInt).length ≤ 11 := by
  have hlo := v.le_toInt
  have hhi := v.toInt_lt
  have hdigits : (decimalText v.toInt.natAbs).length ≤ 10 :=
    (length_decimalText_le_iff (by norm_num)).mpr (by omega)
  rw [integerText, List.length_append]
  have hsign : (if v.toInt < 0 then [ascii '-'] else []).length ≤ 1 := by split_ifs <;> simp
  omega

/-- What `%ld` renders, where it succeeds. -/
lemma formatted_longDecimal [DoubleRounding] (out : ℕ → UInt8) (capacity : ℕ)
    (memory : Stream' VaArg) (v : Int32) :
    formatted out capacity longDecimal (slots memory [.long v]) =
      if (integerText v.toInt).length < capacity then some (integerText v.toInt) else none := by
  have hrenders :
      Renders longDecimal.bytes (slots memory [.long v]) (integerText v.toInt) true := by
    have hdirective : Renders ((Directive.signed true false).spell ++ []) (slots memory [.long v])
        (integerText v.toInt ++ []) true :=
      .directive (.signed true false) rfl (.done _)
    rw [List.append_nil, List.append_nil] at hdirective
    exact hdirective
  have hlength := length_integerText_le v
  exact formatted_of_renders out hrenders (by omega)

/-! ### White space -/

/-- The text neither begins nor ends with white space. -/
def Unpadded (text : List UInt8) : Prop :=
  (∀ c ∈ text.head?, whitespace c = false) ∧ ∀ c ∈ text.getLast?, whitespace c = false

/-- Stripping takes away the white space around a text. -/
lemma stripped_padded (htext : Unpadded text) (hbefore : ∀ c ∈ before, whitespace c = true)
    (hafter : ∀ c ∈ after, whitespace c = true) : stripped (before ++ text ++ after) = text := by
  unfold stripped
  cases text with
  | nil =>
    have hall : ∀ c ∈ before ++ [] ++ after, whitespace c = true := by
      simp only [List.append_nil, List.mem_append]
      rintro c (hc | hc)
      · exact hbefore c hc
      · exact hafter c hc
    rw [List.dropWhile_eq_nil_iff.mpr hall, List.rdropWhile_nil]
  | cons c text =>
    have hhead : ¬ whitespace c = true := by
      rw [htext.1 c rfl]
      decide
    rw [List.append_assoc, List.dropWhile_append_of_pos hbefore, List.cons_append,
      List.dropWhile_cons_of_neg hhead, ← List.cons_append]
    have hlast : (c :: text).reverse.dropWhile whitespace = (c :: text).reverse := by
      rw [← List.reverse_inj, List.reverse_reverse]
      change (c :: text).rdropWhile whitespace = _
      rw [List.rdropWhile_eq_self_iff]
      intro hne
      rw [htext.2 _ (List.getLast?_eq_some_getLast hne)]
      decide
    rw [List.rdropWhile, List.reverse_append,
      List.dropWhile_append_of_pos fun c hc => hafter c (List.mem_reverse.mp hc), hlast,
      List.reverse_reverse]

/-- The token of a name that is followed by white space or by nothing. -/
lemma token_append (hname : ∀ c ∈ name, whitespace c = false)
    (hrest : ∀ c ∈ rest.head?, whitespace c = true) :
    token (name ++ rest) = name ∧ afterToken (name ++ rest) = rest := by
  have hall : ∀ c ∈ name, (!whitespace c) = true := by
    intro c hc
    rw [hname c hc]
    rfl
  unfold token afterToken
  rw [List.takeWhile_append_of_pos hall, List.dropWhile_append_of_pos hall]
  cases rest with
  | nil => simp
  | cons c rest =>
    have hc : whitespace c = true := hrest c rfl
    simp [hc]

/-- A text that begins with a name and does not end in white space has none around it. -/
lemma unpadded_append (hne : name ≠ []) (hname : ∀ c ∈ name, whitespace c = false)
    (hlast : ∀ c ∈ rest.getLast?, whitespace c = false) : Unpadded (name ++ rest) := by
  constructor
  · intro c hc
    rw [List.head?_append_of_ne_nil _ hne] at hc
    exact hname c (List.mem_of_head? hc)
  · intro c hc
    rw [List.getLast?_append, Option.mem_def, Option.or_eq_some_iff] at hc
    rcases hc with hc | ⟨-, hc⟩
    · exact hlast c hc
    · exact hname c (List.mem_of_getLast? hc)

/-- A number is not empty. -/
lemma IsNumber.ne_nil {number : List UInt8} (h : IsNumber number value) : number ≠ [] := by
  obtain ⟨sign, digits, rfl, -, hne, -⟩ := h
  exact List.append_ne_nil_of_right_ne_nil _ hne

/-- A number ends in a digit. -/
lemma IsNumber.last {number : List UInt8} (h : IsNumber number value) :
    ∀ c ∈ number.getLast?, whitespace c = false := by
  obtain ⟨sign, digits, rfl, -, hne, hdigits, -⟩ := h
  intro c hc
  rw [List.getLast?_append_of_ne_nil _ hne] at hc
  exact (not_whitespace_of_digit (hdigits c (List.mem_of_getLast? hc))).1

/-! ### Parsing -/

/-- A short frame that denotes a command is accepted. -/
lemma commandParse_of_denotes (out : MotionCommand) (hshort : text.length < 64)
    (hne : stripped text ≠ []) (h : Denotes (stripped text) command) :
    commandParse text out = some (.ok, command) := by
  obtain ⟨r, o, hparse, houtcome⟩ := commandParse_parses text out
  rw [hparse]
  cases houtcome with
  | tooLong hlong => exact absurd hshort (not_lt.mpr hlong)
  | empty _ hnil => exact absurd hnil hne
  | unknown _ _ hname =>
    obtain ⟨e, hmem, hbytes, -⟩ := h
    exact absurd hbytes (hname e hmem)
  | ok _ _ hdenotes => rw [hdenotes.unique h]
  | argument _ _ _ hnone => exact absurd h (hnone _)

/-- A frame that is accepted denotes the output. -/
lemma denotes_of_commandParse {out : MotionCommand}
    (h : commandParse text out = some (.ok, command)) : Denotes (stripped text) command := by
  obtain ⟨r, o, hparse, houtcome⟩ := commandParse_parses text out
  obtain ⟨rfl, rfl⟩ := Prod.mk.inj (Option.some.inj (hparse.symm.trans h))
  cases houtcome with
  | ok _ _ hdenotes => exact hdenotes

/-! ### The table -/

/-- The entry of a command. -/
lemma exists_entry (type : CommandType) :
    ∃ e ∈ commands, e.type = type ∧ e.bytes = literal (commandName (some type)) ∧
      e.argument = type.takesArgument := by
  cases type <;> decide

/-- The entries agree with the commands that take an argument. -/
lemma argument_of_mem : ∀ e ∈ commands, e.argument = e.type.takesArgument := by decide

/-- The names are words of at most eight letters. -/
lemma name_word (type : CommandType) :
    literal (commandName (some type)) ≠ [] ∧
      (∀ c ∈ literal (commandName (some type)), whitespace c = false) ∧
      (literal (commandName (some type))).length ≤ 8 := by
  have hword : (literal (commandName (some type))).all (fun c => !whitespace c) = true := by
    cases type <;> decide
  refine ⟨?_, ?_, ?_⟩
  · cases type <;> decide
  · intro c hc
    simpa using List.all_eq_true.mp hword c hc
  · cases type <;> decide

/-! ### The round trip -/

section RoundTrip

variable [DoubleRounding] {out : ℕ → UInt8} {capacity : ℕ} {memory : Stream' VaArg}

/-- What follows the name in the text of a command. -/
lemma exists_rest (htext : commandText out capacity memory command = some text)
    (hzero : command.type.takesArgument = false → command.value = 0) :
    ∃ rest, text = literal (commandName (some command.type)) ++ rest ∧
      (∀ c ∈ rest.head?, whitespace c = true) ∧ (∀ c ∈ rest.getLast?, whitespace c = false) ∧
      ∀ e : CommandEntry, e.argument = command.type.takesArgument →
        e.Admits rest command.value := by
  unfold commandText at htext
  split_ifs at htext with hargument
  · rw [formatted_longDecimal, Option.map_eq_some_iff] at htext
    obtain ⟨number, hnumber, rfl⟩ := htext
    split_ifs at hnumber
    obtain rfl := Option.some.inj hnumber
    have hnumeral := isNumber_integerText command.value.toInt
    refine ⟨_, rfl, ?_, ?_, ?_⟩
    · intro c hc
      obtain rfl := Option.some.inj hc
      rfl
    · intro c hc
      rw [← List.singleton_append, List.getLast?_append_of_ne_nil _ hnumeral.ne_nil] at hc
      exact hnumeral.last c hc
    · intro e he
      rw [CommandEntry.Admits, if_pos (he.trans hargument)]
      refine ⟨[ascii ' '], _, rfl, by simp, ?_, hnumeral⟩
      intro c hc
      obtain rfl := List.mem_singleton.mp hc
      rfl
  · obtain rfl := Option.some.inj htext
    have hfalse := Bool.eq_false_iff.mpr hargument
    refine ⟨[], (List.append_nil _).symm, by simp, by simp, ?_⟩
    intro e he
    rw [CommandEntry.Admits, if_neg (by rw [he, hfalse]; simp)]
    exact ⟨rfl, hzero hfalse⟩

/-- The text of a command denotes it, and is without white space around it. -/
lemma denotes_commandText (htext : commandText out capacity memory command = some text)
    (hzero : command.type.takesArgument = false → command.value = 0) :
    Denotes text command ∧ Unpadded text ∧ text ≠ [] := by
  obtain ⟨rest, rfl, hhead, hlast, hadmits⟩ := exists_rest htext hzero
  obtain ⟨hne, hword, -⟩ := name_word command.type
  obtain ⟨e, hmem, htype, hbytes, hargument⟩ := exists_entry command.type
  obtain ⟨htoken, hafter⟩ := token_append hword hhead
  refine ⟨⟨e, hmem, by rw [htoken, hbytes], htype.symm, ?_⟩, unpadded_append hne hword hlast,
    List.append_ne_nil_of_left_ne_nil hne _⟩
  rw [hafter]
  exact hadmits e hargument

omit [DoubleRounding] in
/-- A command without an argument has the value zero where it is denoted. -/
lemma Denotes.value_eq_zero {s : List UInt8} (h : Denotes s command)
    (hargument : command.type.takesArgument = false) : command.value = 0 := by
  obtain ⟨e, hmem, -, htype, hadmits⟩ := h
  have hfalse : ¬ e.argument = true := by
    rw [argument_of_mem e hmem, ← htype, hargument]
    simp
  rw [CommandEntry.Admits, if_neg hfalse] at hadmits
  exact hadmits.2

/-- The text of a command is short. -/
lemma length_commandText_le (htext : commandText out capacity memory command = some text) :
    text.length ≤ 20 := by
  obtain ⟨-, -, hname⟩ := name_word command.type
  unfold commandText at htext
  split_ifs at htext
  · rw [formatted_longDecimal, Option.map_eq_some_iff] at htext
    obtain ⟨number, hnumber, rfl⟩ := htext
    split_ifs at hnumber
    obtain rfl := Option.some.inj hnumber
    have hnumeral := length_integerText_le command.value
    rw [List.length_append, List.length_cons]
    omega
  · obtain rfl := Option.some.inj htext
    omega

/-- Command texts round-trip.  In a buffer of twelve bytes every value is rendered; the text of a
command, with white space around it up to the capacity of a line, is parsed to this command, and
the text of a command that the parser has accepted is parsed to it again. -/
theorem command_text_round_trip (out : ℕ → UInt8) (capacity : ℕ) (memory : Stream' VaArg)
    (command : MotionCommand) :
    (12 ≤ capacity → ∃ text, commandText out capacity memory command = some text) ∧
    ∀ text, commandText out capacity memory command = some text →
      ((command.type.takesArgument = false → command.value = 0) →
        ∀ before after : List UInt8, (∀ c ∈ before, whitespace c = true) →
          (∀ c ∈ after, whitespace c = true) → (before ++ text ++ after).length < 64 →
          ∀ previous,
            commandParse (before ++ text ++ after) previous = some (.ok, command)) ∧
      ∀ frame previous, commandParse frame previous = some (.ok, command) →
        ∀ previous', commandParse text previous' = some (.ok, command) := by
  refine ⟨?_, fun text htext => ⟨?_, ?_⟩⟩
  · intro hcapacity
    unfold commandText
    split_ifs
    · have hnumeral := length_integerText_le command.value
      rw [formatted_longDecimal, if_pos (by omega)]
      exact ⟨_, rfl⟩
    · exact ⟨_, rfl⟩
  · intro hzero before after hbefore hafter hshort previous
    obtain ⟨hdenotes, hunpadded, hne⟩ := denotes_commandText htext hzero
    have hstripped := stripped_padded hunpadded hbefore hafter
    exact commandParse_of_denotes previous hshort (by rwa [hstripped]) (by rwa [hstripped])
  · intro frame previous haccepted previous'
    have hzero := (denotes_of_commandParse haccepted).value_eq_zero
    obtain ⟨hdenotes, hunpadded, hne⟩ := denotes_commandText htext hzero
    have hpadded : stripped ([] ++ text ++ []) = text :=
      stripped_padded hunpadded (by simp) (by simp)
    have hstripped : stripped text = text := by simpa using hpadded
    have hlength := length_commandText_le htext
    exact commandParse_of_denotes previous' (by omega) (by rwa [hstripped]) (by rwa [hstripped])

omit [DoubleRounding] in
/-- A `MOVE` to the smallest target is read back, with white space around it and without. -/
theorem command_text_round_trip_min :
    commandParse (literal "\tMOVE -2147483648\r\n") ⟨.help, 7⟩ =
      some (.ok, ⟨.moveAbs, Int32.minValue⟩) ∧
    commandParse (literal "MOVE -2147483648") ⟨.help, 7⟩ =
      some (.ok, ⟨.moveAbs, Int32.minValue⟩) := by
  have hround := (@command_text_round_trip Binary64.rounding (fun _ => 0) 12 sevens
    ⟨.moveAbs, Int32.minValue⟩).2 (literal "MOVE -2147483648") (by decide +kernel)
  have hbefore : ∀ c ∈ literal "\t", whitespace c = true := List.all_eq_true.mp (by decide)
  have hafter : ∀ c ∈ literal "\r\n", whitespace c = true := List.all_eq_true.mp (by decide)
  exact ⟨hround.1 (by decide) (literal "\t") (literal "\r\n") hbefore hafter (by decide) _,
    hround.2 (literal "MOVE  -2147483648") ⟨.stop, 0⟩ (by decide +kernel) _⟩

end RoundTrip

end MotionFirmware
