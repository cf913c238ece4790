import Mathlib.Algebra.Group.Nat.Defs
import DiskBridge.Proofs.Utf8
import DiskBridge.Remote.Message
import DiskBridge.Usb

/-!
# Values survive their binary form

A codec is `Lawful` when reading takes back what was written and leaves what follows it. The only
limit is the eight bytes that hold the length of a text, so it is stated for values whose form is
shorter than `UInt64.size` bytes.

A reader of a record reads its fields in turn, and a reader of variants an index first, so each
instance is a chain of `run_bind` steps, one for each thing written.
-/

namespace DiskBridge

/-! ## Numbers -/

theorem ofLittleEndian_littleEndian (width value : Nat) :
    ofLittleEndian (littleEndian width value) = value % 256 ^ width := by
  induction width generalizing value with
  | zero => rw [Nat.pow_zero, Nat.mod_one]; rfl
  | succ width ih =>
    have hb : (UInt8.ofNat value).toNat = value % 256 := UInt8.toNat_ofNat'
    rw [littleEndian, ofLittleEndian, ih, hb, Nat.pow_succ, Nat.mul_comm (256 ^ width), Nat.mod_mul]

theorem ofLittleEndian_littleEndian_of_lt {width value : Nat} (h : value < 256 ^ width) :
    ofLittleEndian (littleEndian width value) = value := by
  rw [ofLittleEndian_littleEndian, Nat.mod_eq_of_lt h]

theorem littleEndian_ofLittleEndian (bytes : List UInt8) :
    littleEndian bytes.length (ofLittleEndian bytes) = bytes := by
  induction bytes with
  | nil => rfl
  | cons byte rest ih =>
    have hb := byte.toNat_lt
    have hd : (byte.toNat + 256 * ofLittleEndian rest) / 256 = ofLittleEndian rest := by omega
    have hm : UInt8.ofNat (byte.toNat + 256 * ofLittleEndian rest) = byte := by
      apply UInt8.toNat_inj.1
      rw [UInt8.toNat_ofNat']
      omega
    rw [List.length_cons, ofLittleEndian, littleEndian, hd, hm, ih]

theorem ofLittleEndian_lt (bytes : List UInt8) : ofLittleEndian bytes < 256 ^ bytes.length := by
  induction bytes with
  | nil => exact Nat.one_pos
  | cons byte rest ih =>
    have hb := byte.toNat_lt
    rw [ofLittleEndian, List.length_cons, Nat.pow_succ]
    omega

namespace Codec

variable {α β ε : Type}

theorem run_bind {first : Reader α} {next : α → Reader β} {bytes rest : List UInt8} {value : α}
    (h : first.run bytes = .ok (value, rest)) :
    (first >>= next).run bytes = (next value).run rest := by
  rw [StateT.run_bind, h]
  rfl

theorem run_map {reader : Reader α} {bytes rest : List UInt8} {value : α} (f : α → β)
    (h : reader.run bytes = .ok (value, rest)) :
    (f <$> reader).run bytes = .ok (f value, rest) := by
  rw [StateT.run_map, h]
  rfl

theorem run_take {count : Nat} {bytes rest : List UInt8} (h : bytes.length = count) :
    (take count).run (bytes ++ rest) = .ok (bytes, rest) := by
  have hl : ¬ (bytes ++ rest).length < count := by
    rw [List.length_append]
    omega
  show (if _ then _ else _) = _
  rw [if_neg hl, List.take_left' h, List.drop_left' h]

theorem run_number {width value : Nat} {rest : List UInt8} (h : value < 256 ^ width) :
    (number width).run (littleEndian width value ++ rest) = .ok (value, rest) := by
  rw [number, run_map _ (run_take (length_littleEndian width value)),
    ofLittleEndian_littleEndian_of_lt h]

/-- Reading takes back what was written, and leaves what follows. -/
class Lawful (α : Type) [Codec α] : Prop where
  run_read (value : α) (rest : List UInt8) (h : (write value).length < UInt64.size) :
    (read : Reader α).run (write value ++ rest) = .ok (value, rest)

export Lawful (run_read)

instance : Lawful UInt8 where
  run_read value rest _ := by
    show (UInt8.ofNat <$> number 1).run (littleEndian 1 value.toNat ++ rest) = _
    rw [run_map _ (run_number value.toNat_lt), UInt8.ofNat_toNat]

instance : Lawful UInt16 where
  run_read value rest _ := by
    show (UInt16.ofNat <$> number 2).run (littleEndian 2 value.toNat ++ rest) = _
    rw [run_map _ (run_number value.toNat_lt), UInt16.ofNat_toNat]

instance : Lawful UInt32 where
  run_read value rest _ := by
    show (UInt32.ofNat <$> number 4).run (littleEndian 4 value.toNat ++ rest) = _
    rw [run_map _ (run_number value.toNat_lt), UInt32.ofNat_toNat]

instance : Lawful UInt64 where
  run_read value rest _ := by
    show (UInt64.ofNat <$> number 8).run (littleEndian 8 value.toNat ++ rest) = _
    rw [run_map _ (run_number value.toNat_lt), UInt64.ofNat_toNat]

instance : Lawful Int32 where
  run_read value rest _ := by
    show ((fun n => (UInt32.ofNat n).toInt32) <$> number 4).run
      (littleEndian 4 value.toUInt32.toNat ++ rest) = _
    rw [run_map _ (run_number value.toUInt32.toNat_lt), UInt32.ofNat_toNat]
    rfl

/-! ## Texts, flags, durations -/

instance : Lawful Unit where
  run_read _ _ _ := rfl

instance : Lawful Bool where
  run_read value rest _ := by
    cases value with
    | false => exact run_bind (run_read (0 : UInt8) rest (by decide))
    | true => exact run_bind (run_read (1 : UInt8) rest (by decide))

instance : Lawful String where
  run_read text rest h := by
    have hl : (Utf8.encode text).length < 256 ^ 8 := by
      have h : (littleEndian 8 (Utf8.encode text).length ++ Utf8.encode text).length <
        UInt64.size := h
      rw [List.length_append] at h
      exact Nat.lt_of_le_of_lt (Nat.le_add_left _ _) h
    have hr : ¬ (Utf8.encode text ++ rest).length < (Utf8.encode text).length := by
      rw [List.length_append]
      omega
    show (number 8 >>= _).run ((littleEndian 8 (Utf8.encode text).length ++ Utf8.encode text) ++
      rest) = _
    rw [List.append_assoc, run_bind (run_number hl)]
    show (if _ then _ else _ : Reader String).run (Utf8.encode text ++ rest) = _
    rw [if_neg hr]
    refine (run_bind (run_take rfl)).trans ?_
    rw [Utf8.decode_encode]
    rfl

theorem ofParts?_parts (span : Duration) : Duration.ofParts? span.secs span.nanos = some span := by
  obtain ⟨secs, nanos, hn⟩ := span
  have hd : secs.toNat + nanos.toNat / nanosPerSecond = secs.toNat := by
    rw [Nat.div_eq_of_lt hn, Nat.add_zero]
  unfold Duration.ofParts?
  simp only [hd, Nat.mod_eq_of_lt hn, UInt64.ofNat_toNat, UInt32.ofNat_toNat]
  rw [if_pos secs.toNat_lt]

instance : Lawful Duration where
  run_read span rest _ := by
    show (read >>= _ : Reader Duration).run
      ((write span.secs ++ write span.nanos) ++ rest) = _
    rw [List.append_assoc, run_bind (run_read span.secs _ ?_), run_bind (run_read span.nanos _ ?_),
      ofParts?_parts]
    · rfl
    · rw [show (write span.nanos).length = 4 from length_littleEndian _ _]
      decide
    · rw [show (write span.secs).length = 8 from length_littleEndian _ _]
      decide

/-! ## Variants -/

theorem run_read_writeIndex {index : Nat} {rest : List UInt8} (h : index < UInt32.size) :
    (read : Reader UInt32).run (writeIndex index ++ rest) = .ok (UInt32.ofNat index, rest) :=
  run_map _ (run_number h)

theorem run_readIndex {index count : Nat} {rest : List UInt8} (h : index < count)
    (hc : count ≤ UInt32.size) :
    (readIndex count).run (writeIndex index ++ rest) = .ok (index, rest) := by
  have hi : index < UInt32.size := Nat.lt_of_lt_of_le h hc
  rw [readIndex, run_bind (run_read_writeIndex hi), UInt32.toNat_ofNat_of_lt' hi, if_pos h]
  rfl

/-- An index alone is the form of a listed value. -/
theorem run_readListed [DecidableEq α] {values : List α} {value : α} {rest : List UInt8}
    (h : value ∈ values) (hc : values.length ≤ UInt32.size) :
    (readListed values).run (writeIndex (values.idxOf value) ++ rest) = .ok (value, rest) := by
  have hi : values.idxOf value < values.length := List.idxOf_lt_length_iff.2 h
  have hn : values.idxOf value < UInt32.size := Nat.lt_of_lt_of_le hi hc
  rw [readListed, run_bind (run_read_writeIndex hn), UInt32.toNat_ofNat_of_lt' hn,
    List.getElem?_eq_getElem hi, List.getElem_idxOf hi]
  rfl

/-- The index of a variant stands before what the variant holds. -/
theorem run_variant {index count : Nat} {next : Nat → Reader α} {rest : List UInt8}
    (hi : index < count) (hc : count ≤ UInt32.size) :
    (readIndex count >>= next).run (writeIndex index ++ rest) = (next index).run rest :=
  run_bind (run_readIndex hi hc)

/-- The last thing that a variant holds. -/
theorem run_last [Codec α] [Lawful α] {value : α} {make : α → β} {rest : List UInt8}
    (h : (write value).length < UInt64.size) :
    (read >>= fun value => pure (make value) : Reader β).run (write value ++ rest) =
      .ok (make value, rest) := by
  rw [run_bind (run_read value rest h)]
  rfl

/-- A variant that holds one thing. -/
theorem run_single [Codec α] [Lawful α] {index count : Nat} {next : Nat → Reader β} {value : α}
    {make : α → β} {rest : List UInt8} (h : (writeIndex index ++ write value).length < UInt64.size)
    (hn : next index = do return make (← read)) (hi : index < count) (hc : count ≤ UInt32.size) :
    (readIndex count >>= next).run ((writeIndex index ++ write value) ++ rest) =
      .ok (make value, rest) := by
  rw [List.length_append] at h
  rw [List.append_assoc, run_variant hi hc, hn]
  exact run_last (by omega)

/-- A variant that holds two things. -/
theorem run_pair {γ : Type} [Codec α] [Lawful α] [Codec β] [Lawful β] {index count : Nat}
    {next : Nat → Reader γ} {first : α} {second : β} {make : α → β → γ} {rest : List UInt8}
    (h : (writeIndex index ++ write first ++ write second).length < UInt64.size)
    (hn : next index = do return make (← read) (← read)) (hi : index < count)
    (hc : count ≤ UInt32.size) :
    (readIndex count >>= next).run ((writeIndex index ++ write first ++ write second) ++ rest) =
      .ok (make first second, rest) := by
  rw [List.length_append, List.length_append] at h
  rw [List.append_assoc, List.append_assoc, run_variant hi hc, hn,
    run_bind (run_read first _ (by omega))]
  exact run_last (by omega)

instance [Codec ε] [Lawful ε] [Codec α] [Lawful α] : Lawful (Except ε α) where
  run_read result rest h := by
    cases result with
    | ok value =>
      have h : (writeIndex 0 ++ write value).length < _ := h
      rw [List.length_append] at h
      show (read >>= _ : Reader _).run ((writeIndex 0 ++ write value) ++ rest) = _
      rw [List.append_assoc, run_bind (run_read_writeIndex (by decide))]
      exact run_last (by omega)
    | error error =>
      have h : (writeIndex 1 ++ write error).length < _ := h
      rw [List.length_append] at h
      show (read >>= _ : Reader _).run ((writeIndex 1 ++ write error) ++ rest) = _
      rw [List.append_assoc, run_bind (run_read_writeIndex (by decide))]
      exact run_last (by omega)

/-! ## The vocabulary of chip, drive and host -/

theorem mem_documented {status : Status} (h : ∀ byte, status ≠ .other byte) :
    status ∈ Status.documented := by
  cases status with
  | other byte => exact absurd rfl (h byte)
  | _ => decide

theorem write_documented {status : Status} (h : ∀ byte, status ≠ .other byte) :
    write status = writeIndex (Status.documented.idxOf status) := by
  cases status with
  | other byte => exact absurd rfl (h byte)
  | _ => rfl

instance : Lawful Status where
  run_read status rest h := by
    by_cases ho : ∃ byte, status = .other byte
    · obtain ⟨byte, rfl⟩ := ho
      exact run_single h rfl (by decide) (by decide)
    · have ho : ∀ byte, status ≠ .other byte := fun byte he => ho ⟨byte, he⟩
      have hi : Status.documented.idxOf status < Status.documented.length :=
        List.idxOf_lt_length_iff.2 (mem_documented ho)
      rw [write_documented ho]
      refine (run_variant (Nat.lt_succ_of_lt hi) (by decide)).trans ?_
      rw [List.getElem?_eq_getElem hi, List.getElem_idxOf hi]
      rfl

instance : Lawful Command where
  run_read command rest _ := run_readListed (by cases command <;> decide) (by decide)

instance : Lawful UsbMode where
  run_read mode rest _ := run_readListed (by cases mode <;> decide) (by decide)

instance : Lawful StatusMode where
  run_read mode rest _ := run_readListed (by cases mode <;> decide) (by decide)

instance : Lawful Config where
  run_read config rest h := by
    have h : ((((write config.statusMode ++ write config.beforeReset) ++ write config.afterReset) ++
      write config.modeSwitch) ++ write config.directAnswer).length < _ := h
    show (read >>= _ : Reader Config).run (((((write config.statusMode ++
      write config.beforeReset) ++ write config.afterReset) ++ write config.modeSwitch) ++
      write config.directAnswer) ++ rest) = _
    simp only [List.append_assoc, List.length_append] at h ⊢
    refine (run_bind (run_read config.statusMode _ (by omega))).trans ?_
    refine (run_bind (run_read config.beforeReset _ (by omega))).trans ?_
    refine (run_bind (run_read config.afterReset _ (by omega))).trans ?_
    refine (run_bind (run_read config.modeSwitch _ (by omega))).trans ?_
    exact run_last (by omega)

instance : Lawful UsbInfo where
  run_read info rest h := by
    have h : (((write info.identity.vendor ++ write info.identity.product) ++
      write info.location.bus) ++ write info.location.address).length < _ := h
    show (read >>= _ : Reader UsbInfo).run ((((write info.identity.vendor ++
      write info.identity.product) ++ write info.location.bus) ++ write info.location.address) ++
      rest) = _
    simp only [List.append_assoc, List.length_append] at h ⊢
    refine (run_bind (run_read info.identity.vendor _ (by omega))).trans ?_
    refine (run_bind (run_read info.identity.product _ (by omega))).trans ?_
    refine (run_bind (run_read info.location.bus _ (by omega))).trans ?_
    exact run_last (by omega)

/-! ## Errors -/

instance : Lawful TrafficError where
  run_read kind rest h := by
    cases kind with
    | shortTransfer expected actual => exact run_pair h rfl (by decide) (by decide)
    | transactionOpen => exact run_variant (by decide) (by decide)
    | noTransaction => exact run_variant (by decide) (by decide)
    | selfTest sent expected actual =>
      have h : (((writeIndex 3 ++ write sent) ++ write expected) ++ write actual).length < _ := h
      show (readIndex 6 >>= _).run
        ((((writeIndex 3 ++ write sent) ++ write expected) ++ write actual) ++ rest) = _
      simp only [List.append_assoc, List.length_append] at h ⊢
      refine (run_variant (by decide) (by decide)).trans ?_
      refine (run_bind (run_read sent _ (by omega))).trans ?_
      refine (run_bind (run_read expected _ (by omega))).trans ?_
      exact run_last (by omega)
    | remoteGone message errno => exact run_pair h rfl (by decide) (by decide)
    | remote message errno => exact run_pair h rfl (by decide) (by decide)

instance : Lawful AccessError where
  run_read kind rest h := by
    cases kind with
    | noDevice => exact run_variant (by decide) (by decide)
    | notFound vendor product => exact run_pair h rfl (by decide) (by decide)
    | permission => exact run_variant (by decide) (by decide)
    | addressResolution message errno => exact run_pair h rfl (by decide) (by decide)
    | network message errno => exact run_pair h rfl (by decide) (by decide)

instance : Lawful PathError where
  run_read kind rest h := by
    cases kind with
    | empty => exact run_variant (by decide) (by decide)
    | notAbsolute path => exact run_single h rfl (by decide) (by decide)
    | nameTooLong segment limit => exact run_pair h rfl (by decide) (by decide)
    | missingLeaf path => exact run_single h rfl (by decide) (by decide)
    | directoryOpen segment status => exact run_pair h rfl (by decide) (by decide)

instance : Lawful StreamError where
  run_read kind rest h := by
    cases kind with
    | chunkOverrun offered remaining => exact run_pair h rfl (by decide) (by decide)

instance : Lawful Error where
  run_read error rest h := by
    cases error with
    | usb message =>
      have h : ((writeIndex 0 ++ writeIndex 0) ++ write message).length < _ := h
      show (readIndex 9 >>= _).run (((writeIndex 0 ++ writeIndex 0) ++ write message) ++ rest) = _
      simp only [List.append_assoc, List.length_append] at h ⊢
      refine (run_variant (by decide) (by decide)).trans ?_
      refine (run_variant (by decide) (by decide)).trans ?_
      exact run_last (by omega)
    | setup message => exact run_single h rfl (by decide) (by decide)
    | traffic kind => exact run_single h rfl (by decide) (by decide)
    | timeout span => exact run_single h rfl (by decide) (by decide)
    | access kind => exact run_single h rfl (by decide) (by decide)
    | arguments message => exact run_single h rfl (by decide) (by decide)
    | unexpectedStatus command status => exact run_pair h rfl (by decide) (by decide)
    | path kind => exact run_single h rfl (by decide) (by decide)
    | stream kind => exact run_single h rfl (by decide) (by decide)

/-! ## Messages of the bridge -/

instance : Lawful Bus.Call where
  run_read call rest h := by
    cases call with
    | begin => exact run_variant (by decide) (by decide)
    | finish => exact run_variant (by decide) (by decide)
    | exchange byte => exact run_single h rfl (by decide) (by decide)
    | poll => exact run_variant (by decide) (by decide)
    | pause span => exact run_single h rfl (by decide) (by decide)

instance : Lawful Remote.Response where
  run_read response rest h := by
    cases response with
    | began result => exact run_single h rfl (by decide) (by decide)
    | finished result => exact run_single h rfl (by decide) (by decide)
    | exchanged result => exact run_single h rfl (by decide) (by decide)
    | polled result => exact run_single h rfl (by decide) (by decide)
    | paused => exact run_variant (by decide) (by decide)

/-- A value is decoded from its bytes. -/
theorem decode_encode [Codec α] [Lawful α] {value : α}
    (h : (encode value).length < UInt64.size) : decode α (encode value) = .ok value := by
  have hr := run_read value [] h
  rw [List.append_nil] at hr
  rw [decode, encode, hr]
  rfl

end Codec

end DiskBridge
