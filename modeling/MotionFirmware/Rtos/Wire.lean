import MotionFirmware.Drivers.InputHost
import MotionFirmware.Rtos.Console

/-!
# The wire

`uart_write` of the STM32 waits for the transmitter before every byte and once more after the last
one, for a bounded number of reads of the status register; when a wait ends without the flag, the
call is given up, with the rest of its bytes.  What the status register returns is arbitrary here.

Of the bytes of every call a prefix goes out, and every call that was given up is counted.  The
first line of a record is made by two calls, for its time and for what follows, so a call that is
given up may leave a line without its beginning.  A transmitter that keeps up with the waits sends
the console as it is.
-/

namespace MotionFirmware

/-! ### The driver -/

/-- `USART_SR_TXE`. -/
def usartSrTxe : UInt32 := 0x80

/-- `USART_SR_TC`. -/
def usartSrTc : UInt32 := 0x40

/-- The `limit` of `wait_flag`. -/
def waitLimit : ℕ := 100000

/-- What the coming reads of `USART2->SR` return, the bytes that were written to `USART2->DR`, and
`stm32_uart_tx_errors`. -/
structure Transmitter where
  status : Stream' UInt32
  sent : List UInt8 := []
  txErrors : UInt32 := 0

/-- `wait_flag`, with the limit that is left. -/
def waitFlag (flag : UInt32) : (limit : ℕ) → Stream' UInt32 → Bool × Stream' UInt32
  | 0, status => (false, status)
  | limit + 1, status =>
    if status.head &&& flag ≠ 0 then (true, status.tail) else waitFlag flag limit status.tail

/-- The loop of `uart_write`. -/
def writeLoop : List UInt8 → Transmitter → Bool × Transmitter
  | [], u => (true, u)
  | b :: data, u =>
    let ready := waitFlag usartSrTxe waitLimit u.status
    if ready.1 then writeLoop data { u with status := ready.2, sent := u.sent ++ [b] }
    else (false, { u with status := ready.2, txErrors := u.txErrors + 1 })

/-- `uart_write`, after `uart_init`. -/
def uartWrite (data : List UInt8) (u : Transmitter) : Except UartError Unit × Transmitter :=
  if uartTxMaxWrite < data.length then (.error .tooLong, u)
  else
    let loop := writeLoop data u
    if loop.1 then
      if data = [] then (.ok (), loop.2)
      else
        let done := waitFlag usartSrTc waitLimit loop.2.status
        if done.1 then (.ok (), { loop.2 with status := done.2 })
        else
          (.error .ioError, { loop.2 with status := done.2, txErrors := loop.2.txErrors + 1 })
    else (.error .ioError, loop.2)

/-- Calls of `uart_write` one after the other, with their results. -/
def transmit : List (List UInt8) → Transmitter → List (Except UartError Unit) × Transmitter
  | [], u => ([], u)
  | data :: calls, u =>
    let rest := transmit calls (uartWrite data u).2
    ((uartWrite data u).1 :: rest.1, rest.2)

/-- The call has failed. -/
def failed : Except UartError Unit → Bool
  | .ok _ => false
  | .error _ => true

/-! ### What is sent -/

section Sending

variable {data : List UInt8} {calls : List (List UInt8)} {u : Transmitter} {flag : UInt32}
  {status : Stream' UInt32}

/-- A prefix of the bytes has been sent, all of them if nothing has failed; a failure is counted. -/
structure Sends (data : List UInt8) (u u' : Transmitter) (fails : Bool) : Prop where
  sent : ∃ part, part <+: data ∧ u'.sent = u.sent ++ part ∧ (fails = false → part = data)
  txErrors : u'.txErrors = u.txErrors + if fails then 1 else 0

/-- The loop.  By induction on the bytes. -/
lemma writeLoop_sends (data : List UInt8) (u : Transmitter) :
    Sends data u (writeLoop data u).2 (!(writeLoop data u).1) := by
  induction data generalizing u with
  | nil =>
    refine ⟨⟨[], List.nil_prefix, (List.append_nil _).symm, fun _ => rfl⟩, ?_⟩
    exact (UInt32.add_zero _).symm
  | cons b data ih =>
    unfold writeLoop
    dsimp only
    split_ifs with hready
    · obtain ⟨⟨part, hpart, hsent, hall⟩, herrors⟩ := ih { u with
        status := (waitFlag usartSrTxe waitLimit u.status).2, sent := u.sent ++ [b] }
      refine ⟨⟨b :: part, List.prefix_cons_inj b |>.mpr hpart, ?_, ?_⟩, herrors⟩
      · rw [hsent, List.append_assoc, List.singleton_append]
      · intro hfails
        rw [hall hfails]
    · refine ⟨⟨[], List.nil_prefix, (List.append_nil _).symm, ?_⟩, rfl⟩
      intro hfails
      exact absurd hfails (by simp)

/-- **Call.**  Of an admissible number of bytes. -/
lemma uartWrite_sends (hlength : data.length ≤ uartTxMaxWrite) (u : Transmitter) :
    Sends data u (uartWrite data u).2 (failed (uartWrite data u).1) := by
  obtain ⟨⟨part, hpart, hsent, hall⟩, herrors⟩ := writeLoop_sends data u
  unfold uartWrite
  rw [if_neg (not_lt.mpr hlength)]
  dsimp only
  by_cases hloop : (writeLoop data u).1 = true
  · rw [hloop] at herrors hall
    obtain rfl := hall rfl
    rw [if_pos hloop]
    split_ifs
    · exact ⟨⟨part, hpart, hsent, fun _ => rfl⟩, herrors⟩
    · exact ⟨⟨part, hpart, hsent, fun _ => rfl⟩, herrors⟩
    · refine ⟨⟨part, hpart, hsent, fun _ => rfl⟩, ?_⟩
      dsimp only [failed]
      rw [herrors]
      simp
  · rw [Bool.not_eq_true] at hloop
    rw [hloop] at herrors
    rw [if_neg (by simp [hloop])]
    refine ⟨⟨part, hpart, hsent, ?_⟩, herrors⟩
    intro hfails
    exact absurd hfails (by simp [failed])

/-- **Calls.**  By induction on the calls. -/
lemma transmit_sends (hcalls : ∀ data ∈ calls, data.length ≤ uartTxMaxWrite) (u : Transmitter) :
    (∃ parts, List.Forall₂ (fun part data => part <+: data) parts calls ∧
      (transmit calls u).2.sent = u.sent ++ parts.flatten ∧
      ((transmit calls u).1.countP failed = 0 → parts = calls)) ∧
    (transmit calls u).2.txErrors =
      u.txErrors + UInt32.ofNat ((transmit calls u).1.countP failed) := by
  induction calls generalizing u with
  | nil =>
    exact ⟨⟨[], .nil, (List.append_nil _).symm, fun _ => rfl⟩, (UInt32.add_zero _).symm⟩
  | cons data calls ih =>
    obtain ⟨hdata, hrest⟩ := List.forall_mem_cons.mp hcalls
    obtain ⟨⟨part, hpart, hsent, hall⟩, herrors⟩ := uartWrite_sends hdata u
    obtain ⟨⟨parts, hparts, hsents, halls⟩, hcount⟩ := ih hrest (uartWrite data u).2
    unfold transmit
    dsimp only
    rw [List.countP_cons]
    refine ⟨⟨part :: parts, .cons hpart hparts, ?_, ?_⟩, ?_⟩
    · rw [hsents, hsent, List.flatten_cons, List.append_assoc]
    · intro hnone
      have hfirst : failed (uartWrite data u).1 = false := by
        cases hfailed : failed (uartWrite data u).1 with
        | false => rfl
        | true => simp [hfailed] at hnone
      rw [hall hfirst, halls (by omega)]
    · rw [hcount, herrors, UInt32.ofNat_add, UInt32.add_assoc,
        UInt32.add_comm (UInt32.ofNat _) (UInt32.ofNat _)]
      cases failed (uartWrite data u).1 <;> rfl

/-! ### A transmitter that keeps up -/

/-- Either flag is set at least once in any `waitLimit` reads in a row. -/
def KeepsUp (status : Stream' UInt32) : Prop :=
  ∀ flag, flag = usartSrTxe ∨ flag = usartSrTc →
    ∀ n, ∃ j < waitLimit, status.get (n + j) &&& flag ≠ 0

lemma KeepsUp.drop (h : KeepsUp status) (k : ℕ) : KeepsUp (status.drop k) := by
  intro flag hflag n
  obtain ⟨j, hj, hset⟩ := h flag hflag (n + k)
  have hplace : k + (n + j) = n + k + j := by omega
  refine ⟨j, hj, ?_⟩
  rwa [Stream'.get_drop, hplace]

/-- A wait that finds its flag. -/
lemma waitFlag_fst {limit j : ℕ} (hj : j < limit) (hset : status.get j &&& flag ≠ 0) :
    (waitFlag flag limit status).1 = true := by
  induction limit generalizing status j with
  | zero => exact absurd hj (Nat.not_lt_zero j)
  | succ limit ih =>
    unfold waitFlag
    split_ifs with hhead
    · rfl
    · cases j with
      | zero => exact absurd hset hhead
      | succ j => exact ih (Nat.lt_of_succ_lt_succ hj) hset

/-- A wait reads on. -/
lemma waitFlag_snd (limit : ℕ) (status : Stream' UInt32) :
    ∃ k, (waitFlag flag limit status).2 = status.drop k := by
  induction limit generalizing status with
  | zero => exact ⟨0, rfl⟩
  | succ limit ih =>
    unfold waitFlag
    split_ifs
    · exact ⟨1, rfl⟩
    · obtain ⟨k, hk⟩ := ih status.tail
      exact ⟨k + 1, hk⟩

lemma keepsUp_waitFlag (h : KeepsUp status) (hflag : flag = usartSrTxe ∨ flag = usartSrTc) :
    (waitFlag flag waitLimit status).1 = true ∧
      KeepsUp (waitFlag flag waitLimit status).2 := by
  obtain ⟨j, hj, hset⟩ := h flag hflag 0
  obtain ⟨k, hk⟩ := @waitFlag_snd flag waitLimit status
  rw [Nat.zero_add] at hset
  refine ⟨waitFlag_fst hj hset, ?_⟩
  rw [hk]
  exact h.drop k

lemma keepsUp_writeLoop (h : KeepsUp u.status) (data : List UInt8) :
    (writeLoop data u).1 = true ∧
      KeepsUp (writeLoop data u).2.status := by
  induction data generalizing u with
  | nil => exact ⟨rfl, h⟩
  | cons b data ih =>
    obtain ⟨hready, hrest⟩ := keepsUp_waitFlag h (Or.inl rfl)
    unfold writeLoop
    dsimp only
    rw [if_pos hready]
    exact ih hrest

lemma keepsUp_uartWrite (h : KeepsUp u.status) (hlength : data.length ≤ uartTxMaxWrite) :
    failed (uartWrite data u).1 = false ∧
      KeepsUp (uartWrite data u).2.status := by
  obtain ⟨hloop, hkeeps⟩ := keepsUp_writeLoop h data
  obtain ⟨hdone, hrest⟩ := keepsUp_waitFlag hkeeps (Or.inr rfl)
  unfold uartWrite
  rw [if_neg (not_lt.mpr hlength)]
  dsimp only
  rw [if_pos hloop, if_pos hdone]
  split_ifs
  · exact ⟨rfl, hkeeps⟩
  · exact ⟨rfl, hrest⟩

/-- **Calls.**  No call fails. -/
lemma keepsUp_transmit (h : KeepsUp u.status)
    (hcalls : ∀ data ∈ calls, data.length ≤ uartTxMaxWrite) :
    (transmit calls u).1.countP failed = 0 := by
  induction calls generalizing u with
  | nil => rfl
  | cons data calls ih =>
    obtain ⟨hdata, hrest⟩ := List.forall_mem_cons.mp hcalls
    obtain ⟨hok, hkeeps⟩ := keepsUp_uartWrite h hdata
    unfold transmit
    dsimp only
    rw [List.countP_cons, ih hkeeps hrest, hok]
    rfl

end Sending

/-! ### The wire of a run -/

section Runs

variable {δ ε : Type}

/-- The calls of a step hand over no more than the driver accepts. -/
lemma handed_length [DoubleRounding] (m : Memory) {p : Print} (hfits : p.Fits) :
    (handed m p).length ≤ uartTxMaxWrite := by
  obtain ⟨line, -, hprint, hlength, -⟩ := hfits.complete (m.buffer p) (m.rest p)
  rw [handed, hprint, Option.getD_some]
  exact hlength

/-- Every call of a step fits. -/
lemma printsOf_fits (snapshot : Firmware δ → RuntimeSnapshot) (a : FirmwareAction ε)
    (f : Firmware δ) : ∀ p ∈ printsOf snapshot a f, p.Fits := by
  have hnil : ∀ p ∈ ([] : List Print), p.Fits := List.forall_mem_nil _
  unfold printsOf
  cases a with
  | telemetry =>
    dsimp only
    cases f.telemetry with
    | emit i record =>
      exact List.forall_mem_cons.mpr
        ⟨time_fits record.timestampMs, diagnosticLines_fits (snapshot f) record⟩
    | snapshot => exact emitSnapshot_fits (snapshot f) (by decide)
    | _ => exact hnil
  | _ => exact hnil

variable [Rounding]

/-- The calls of a run hand over no more than the driver accepts. -/
lemma length_writes (double : DoubleRounding) (driver : InputDriver δ ε) (env : Environment)
    (input : δ) (snapshot : Firmware δ → RuntimeSnapshot) (memory : Firmware δ → Memory)
    (as : List (FirmwareAction ε)) :
    ∀ data ∈ writes driver env input snapshot (fun f => @handed double (memory f)) as,
      data.length ≤ uartTxMaxWrite := by
  induction as using List.reverseRecOn with
  | nil => exact List.forall_mem_nil _
  | append_singleton as a ih =>
    rw [writes_append]
    refine List.forall_mem_append.mpr ⟨ih, fun data hmem => ?_⟩
    obtain ⟨p, hp, rfl⟩ := List.mem_map.mp hmem
    exact @handed_length double _ _ (printsOf_fits snapshot a _ p hp)

/-- **Wire.**  In every run, whatever the status register returns: of the bytes of every call of
`uart_write` a prefix is sent, in order, and `stm32_uart_tx_errors` counts the calls that were given
up.  If none was, the entries on the wire are the records that Telemetry has emitted; and none is
where the transmitter keeps up. -/
theorem wire_entries (double : DoubleRounding) (driver : InputDriver δ ε) (env : Environment)
    (input : δ) (snapshot : Firmware δ → RuntimeSnapshot) (memory : Firmware δ → Memory)
    (as : List (FirmwareAction ε)) (status : Stream' UInt32) :
    let calls := writes driver env input snapshot (fun f => @handed double (memory f)) as
    let wire := transmit calls { status := status }
    (∃ parts, List.Forall₂ (fun part data => part <+: data) parts calls ∧
      wire.2.sent = parts.flatten) ∧
    wire.2.txErrors = UInt32.ofNat (wire.1.countP failed) ∧
    (wire.1.countP failed = 0 →
      List.Forall₂ (@Diagnostic.Reads double) (firmwareLog driver env input as).emitted
        (entries wire.2.sent)) ∧
    (KeepsUp status → wire.1.countP failed = 0) := by
  intro calls wire
  have hcalls := length_writes double driver env input snapshot memory as
  obtain ⟨⟨parts, hparts, hsent, hall⟩, herrors⟩ := transmit_sends hcalls { status := status }
  rw [List.nil_append] at hsent
  rw [UInt32.zero_add] at herrors
  refine ⟨⟨parts, hparts, hsent⟩, herrors, ?_, ?_⟩
  · intro hnone
    have hwire : wire.2.sent =
        console driver env input snapshot (fun f => @handed double (memory f)) as := by
      rw [hall hnone] at hsent
      exact hsent
    rw [hwire]
    exact (@Transcribes.reads double _ _
      (transcribes_console double driver env input snapshot memory as)).2
  · intro hkeeps
    exact keepsUp_transmit hkeeps hcalls

end Runs

end MotionFirmware
