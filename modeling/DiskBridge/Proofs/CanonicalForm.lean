import DiskBridge.Proofs.RoundTrip

/-!
# One form for each value

Reading undoes writing. Here is the converse: bytes that are read as a value are its form, with one
exception. A duration may be written with more nanoseconds than a second has, and is read with the
whole seconds among them carried over.

1. `Reads` says of a reader what it takes for a value, and that it would take the same if more bytes
   followed. It is proved along the parts of a reader (`reads_bind`, `reads_variant`).
2. What is taken has the length of the form, and it is the form exactly if the nanoseconds of each
   duration in it are below a second (`Resembles`). `Timed.offsets` says where the durations stand.
3. Each type that crosses the bridge is `Canonical`: its reader takes what resembles the form.

`wire_faithful` states both directions for all of these types.
-/

namespace DiskBridge

namespace Codec

variable {α β ε : Type}

/-! ## What a reader takes -/

/-- Whatever the reader takes for a value has the property, and does not depend on what follows. -/
def Reads (reader : Reader α) (P : α → List UInt8 → Prop) : Prop :=
  ∀ bytes value rest, reader.run bytes = .ok (value, rest) →
    (∃ used, bytes = used ++ rest ∧ P value used) ∧
      ∀ tail, reader.run (bytes ++ tail) = .ok (value, rest ++ tail)

theorem Reads.imp {reader : Reader α} {P Q : α → List UInt8 → Prop} (h : Reads reader P)
    (hi : ∀ value used, P value used → Q value used) : Reads reader Q := by
  intro bytes value rest hr
  obtain ⟨⟨used, hb, hp⟩, ht⟩ := h bytes value rest hr
  exact ⟨⟨used, hb, hi value used hp⟩, ht⟩

theorem reads_pure {value : α} {P : α → List UInt8 → Prop} (h : P value []) :
    Reads (pure value) P := by
  intro bytes _ rest hr
  cases hr
  exact ⟨⟨[], rfl, h⟩, fun tail => rfl⟩

theorem reads_throw {error : DecodeError} {P : α → List UInt8 → Prop} :
    Reads (throw error) P := by
  intro bytes value rest hr
  cases hr

theorem run_bind_eq_ok {first : Reader α} {next : α → Reader β} {bytes rest : List UInt8}
    {value : β} (h : (first >>= next).run bytes = .ok (value, rest)) :
    ∃ head middle, first.run bytes = .ok (head, middle) ∧
      (next head).run middle = .ok (value, rest) := by
  rw [StateT.run_bind] at h
  cases hf : first.run bytes with
  | error error =>
    rw [hf] at h
    cases h
  | ok result =>
    rw [hf] at h
    exact ⟨result.1, result.2, rfl, h⟩

theorem reads_bind {first : Reader α} {next : α → Reader β} {P : α → List UInt8 → Prop}
    {Q : β → List UInt8 → Prop} (hf : Reads first P)
    (hn : ∀ head before, P head before →
      Reads (next head) fun value used => Q value (before ++ used)) :
    Reads (first >>= next) Q := by
  intro bytes value rest hr
  obtain ⟨head, middle, hr, hs⟩ := run_bind_eq_ok hr
  obtain ⟨⟨before, rfl, hp⟩, ht⟩ := hf _ _ _ hr
  obtain ⟨⟨used, rfl, hq⟩, hu⟩ := hn head before hp _ _ _ hs
  refine ⟨⟨before ++ used, by rw [List.append_assoc], hq⟩, fun tail => ?_⟩
  rw [run_bind (ht tail)]
  exact hu tail

theorem reads_map {reader : Reader α} {f : α → β} {P : β → List UInt8 → Prop}
    (h : Reads reader fun value used => P (f value) used) : Reads (f <$> reader) P := by
  intro bytes value rest hr
  rw [map_eq_pure_bind] at hr
  obtain ⟨head, middle, hr, hs⟩ := run_bind_eq_ok hr
  cases hs
  obtain ⟨hu, ht⟩ := h _ _ _ hr
  exact ⟨hu, fun tail => run_map f (ht tail)⟩

theorem reads_take (count : Nat) : Reads (take count) fun bytes used => bytes = used ∧
    used.length = count := by
  intro bytes value rest hr
  have hr : (if bytes.length < count then .error DecodeError.cutShort
    else .ok (bytes.take count, bytes.drop count)) = Except.ok (value, rest) := hr
  split at hr
  · cases hr
  · next hl =>
    cases hr
    have hc : (bytes.take count).length = count := List.length_take_of_le (Nat.not_lt.1 hl)
    refine ⟨⟨bytes.take count, (List.take_append_drop _ _).symm, rfl, hc⟩, fun tail => ?_⟩
    have ht : (take count).run (bytes.take count ++ (bytes.drop count ++ tail)) = _ := run_take hc
    rwa [← List.append_assoc, List.take_append_drop] at ht

theorem reads_number (width : Nat) : Reads (number width) fun value used =>
    used = littleEndian width value ∧ value < 256 ^ width := by
  refine reads_map ((reads_take width).imp ?_)
  rintro bytes used ⟨rfl, rfl⟩
  exact ⟨(littleEndian_ofLittleEndian bytes).symm, ofLittleEndian_lt bytes⟩

/-! ## Durations in a form -/

/-- Values whose form may hold durations: where these stand, counted from the start. -/
class Timed (α : Type) where
  offsets : α → List Nat := fun _ => []

export Timed (offsets)

/-- The nanoseconds of the duration that stands at an offset. -/
def nanosAt (bytes : List UInt8) (offset : Nat) : Nat :=
  ofLittleEndian ((bytes.drop (offset + 8)).take 4)

/-- Bytes as long as a form, which are that form exactly if no duration in them has a second or more
in its nanoseconds. -/
structure Resembles (used form : List UInt8) (offsets : List Nat) : Prop where
  length : used.length = form.length
  within : ∀ offset ∈ offsets, offset + 12 ≤ form.length
  eq_iff : used = form ↔ ∀ offset ∈ offsets, nanosAt used offset < nanosPerSecond

theorem Resembles.refl (form : List UInt8) : Resembles form form [] where
  length := rfl
  within := by simp
  eq_iff := by simp

theorem nanosAt_append_left {before : List UInt8} (after : List UInt8) {offset : Nat}
    (h : offset + 12 ≤ before.length) : nanosAt (before ++ after) offset = nanosAt before offset := by
  unfold nanosAt
  rw [List.drop_append_of_le_length (by omega), List.take_append_of_le_length]
  rw [List.length_drop]
  omega

theorem nanosAt_append_right (before after : List UInt8) (offset : Nat) :
    nanosAt (before ++ after) (before.length + offset) = nanosAt after offset := by
  unfold nanosAt
  rw [Nat.add_assoc, List.drop_length_add_append]

theorem Resembles.append {used form used' form' : List UInt8} {first second : List Nat}
    (h : Resembles used form first) (h' : Resembles used' form' second) :
    Resembles (used ++ used') (form ++ form') (first ++ second.map (form.length + ·)) where
  length := by rw [List.length_append, List.length_append, h.length, h'.length]
  within := by
    simp only [List.length_append, List.mem_append, List.mem_map]
    rintro offset (ho | ⟨offset, ho, rfl⟩)
    · have := h.within offset ho
      omega
    · have := h'.within offset ho
      omega
  eq_iff := by
    have hf : (∀ offset ∈ first, nanosAt (used ++ used') offset < nanosPerSecond) ↔ used = form := by
      rw [h.eq_iff]
      refine forall₂_congr fun offset ho => ?_
      rw [nanosAt_append_left _ (h.length ▸ h.within offset ho)]
    have hs : (∀ offset ∈ second,
        nanosAt (used ++ used') (form.length + offset) < nanosPerSecond) ↔ used' = form' := by
      rw [h'.eq_iff]
      refine forall₂_congr fun offset _ => ?_
      rw [← h.length, nanosAt_append_right]
    simp only [List.forall_mem_append, List.forall_mem_map, hf, hs]
    constructor
    · exact fun he => List.append_inj he h.length
    · rintro ⟨rfl, rfl⟩
      rfl

theorem Resembles.eq {used form : List UInt8} (h : Resembles used form []) : used = form :=
  h.eq_iff.2 (by simp)

/-- The reader takes nothing but what resembles the form of the value. -/
class Canonical (α : Type) [Codec α] [Timed α] : Prop where
  reads : Reads (read : Reader α) fun value used => Resembles used (write value) (offsets value)

/-- A thing that is read on the way. -/
theorem reads_field [Codec α] [Timed α] [Canonical α] {next : α → Reader β}
    {P : β → List UInt8 → Prop}
    (h : ∀ value before, Resembles before (write value) (offsets value) →
      Reads (next value) fun result used => P result (before ++ used)) :
    Reads (read >>= next) P :=
  reads_bind Canonical.reads h

/-! ## Numbers, texts, flags, durations -/

/-- A number is read from its own bytes only. -/
theorem reads_unsigned [Codec α] [Timed α] {width : Nat} {make : Nat → α}
    (hw : ∀ n, n < 256 ^ width → write (make n) = littleEndian width n)
    (ho : ∀ value : α, offsets value = []) :
    Reads (make <$> number width) fun value used =>
      Resembles used (write value) (offsets value) := by
  refine reads_map ((reads_number width).imp ?_)
  rintro n used ⟨rfl, hn⟩
  rw [hw n hn, ho]
  exact .refl _

instance : Timed UInt8 := {}

instance : Canonical UInt8 where
  reads := reads_unsigned
    (fun _ hn => congrArg (littleEndian 1) (UInt8.toNat_ofNat_of_lt' hn)) fun _ => rfl

instance : Timed UInt16 := {}

instance : Canonical UInt16 where
  reads := reads_unsigned
    (fun _ hn => congrArg (littleEndian 2) (UInt16.toNat_ofNat_of_lt' hn)) fun _ => rfl

instance : Timed UInt32 := {}

instance : Canonical UInt32 where
  reads := reads_unsigned
    (fun _ hn => congrArg (littleEndian 4) (UInt32.toNat_ofNat_of_lt' hn)) fun _ => rfl

instance : Timed UInt64 := {}

instance : Canonical UInt64 where
  reads := reads_unsigned
    (fun _ hn => congrArg (littleEndian 8) (UInt64.toNat_ofNat_of_lt' hn)) fun _ => rfl

instance : Timed Int32 := {}

instance : Canonical Int32 where
  reads := reads_unsigned
    (fun _ hn => congrArg (littleEndian 4) (UInt32.toNat_ofNat_of_lt' hn)) fun _ => rfl

instance : Timed Unit := {}

instance : Canonical Unit where
  reads := reads_pure (.refl [])

instance : Timed Bool := {}

instance : Canonical Bool where
  reads := by
    refine reads_field fun byte before hb => ?_
    obtain rfl : before = littleEndian 1 byte.toNat := hb.eq
    by_cases h0 : byte = 0
    · rw [if_pos h0, h0]
      exact reads_pure (.refl [0])
    by_cases h1 : byte = 1
    · rw [if_neg h0, if_pos h1, h1]
      exact reads_pure (.refl [1])
    · rw [if_neg h0, if_neg h1]
      exact reads_throw

instance : Timed String := {}

/-- What a reader takes is not changed by a look at how much is left. -/
theorem reads_guarded {reader : Reader α} {P : α → List UInt8 → Prop} (count : Nat)
    (error : DecodeError) (h : Reads reader P) :
    Reads (get >>= fun rest => if rest.length < count then throw error >>= fun _ : PUnit => reader
      else reader) P := by
  intro bytes value rest hr
  have hg (bytes : List UInt8) : (get >>= fun rest =>
      if rest.length < count then throw error >>= fun _ : PUnit => reader else reader).run bytes =
        if bytes.length < count then .error error else reader.run bytes := by
    show (if _ then _ else _ : Reader α).run bytes = _
    split <;> rfl
  rw [hg] at hr
  split at hr
  · cases hr
  · next hl =>
    obtain ⟨hu, ht⟩ := h bytes value rest hr
    refine ⟨hu, fun tail => ?_⟩
    rw [hg, if_neg (by rw [List.length_append]; omega)]
    exact ht tail

instance : Canonical String where
  reads := by
    refine reads_bind (reads_number 8) ?_
    rintro length before ⟨rfl, -⟩
    refine reads_guarded length .longText (reads_bind (reads_take length) ?_)
    rintro bytes used ⟨rfl, hl⟩
    cases hd : Utf8.decode bytes with
    | error fault => exact reads_throw
    | ok text =>
      refine reads_pure ?_
      show Resembles _ (littleEndian 8 (Utf8.encode text).length ++ Utf8.encode text) []
      rw [Utf8.encode_of_decode hd, hl, List.append_nil]
      exact .refl _

instance : Timed Duration where
  offsets _ := [0]

theorem ofParts?_of_lt {secs : UInt64} {nanos : UInt32} (h : nanos.toNat < nanosPerSecond) :
    Duration.ofParts? secs nanos = some ⟨secs, nanos, h⟩ :=
  ofParts?_parts ⟨secs, nanos, h⟩

instance : Canonical Duration where
  reads := by
    refine reads_field fun secs before hs => reads_field fun nanos after hn => ?_
    obtain rfl : before = littleEndian 8 secs.toNat := hs.eq
    obtain rfl : after = littleEndian 4 nanos.toNat := hn.eq
    have hl : (littleEndian 8 secs.toNat).length = 8 := length_littleEndian _ _
    have hm : (littleEndian 4 nanos.toNat).length = 4 := length_littleEndian _ _
    have ha : nanosAt (littleEndian 8 secs.toNat ++ littleEndian 4 nanos.toNat) 0 =
        nanos.toNat := by
      unfold nanosAt
      rw [List.drop_left' hl, List.take_of_length_le (Nat.le_of_eq hm),
        ofLittleEndian_littleEndian_of_lt nanos.toNat_lt]
    cases hp : Duration.ofParts? secs nanos with
    | none => exact reads_throw
    | some span =>
      refine reads_pure ?_
      rw [List.append_nil]
      refine ⟨rfl, by simp [offsets, write, length_littleEndian], ?_⟩
      simp only [offsets, List.forall_mem_singleton, ha]
      constructor
      · intro he
        have he : littleEndian 4 nanos.toNat = littleEndian 4 span.nanos.toNat :=
          (List.append_inj he rfl).2
        have hn := congrArg ofLittleEndian he
        rw [ofLittleEndian_littleEndian_of_lt nanos.toNat_lt,
          ofLittleEndian_littleEndian_of_lt span.nanos.toNat_lt] at hn
        exact hn ▸ span.nanos_lt
      · intro hn
        rw [ofParts?_of_lt hn] at hp
        cases hp
        rfl

/-! ## Variants -/

/-- The index of a variant is read from its own bytes only. -/
theorem reads_index {next : UInt32 → Reader α} {P : α → List UInt8 → Prop}
    (h : ∀ index : UInt32, Reads (next index) fun value used =>
      P value (writeIndex index.toNat ++ used)) : Reads (read >>= next) P := by
  refine reads_field fun index before hb => ?_
  obtain rfl : before = writeIndex index.toNat := hb.eq
  exact h index

theorem reads_variant {count : Nat} {next : Nat → Reader α} {P : α → List UInt8 → Prop}
    (h : ∀ index, index < count → Reads (next index) fun value used =>
      P value (writeIndex index ++ used)) : Reads (readIndex count >>= next) P := by
  have hi : Reads (readIndex count) fun index used => used = writeIndex index ∧ index < count := by
    refine reads_index fun index => ?_
    split
    · next hi => exact reads_pure ⟨List.append_nil _, hi⟩
    · exact reads_throw
  refine reads_bind hi ?_
  rintro index before ⟨rfl, hi⟩
  exact h index hi

theorem reads_readListed [DecidableEq α] {values : List α} (hn : values.Nodup) :
    Reads (readListed values) fun value used => used = writeIndex (values.idxOf value) := by
  refine reads_index fun index => ?_
  cases hv : values[index.toNat]? with
  | none => exact reads_throw
  | some value =>
    refine reads_pure ?_
    obtain ⟨hi, rfl⟩ := List.getElem?_eq_some_iff.1 hv
    rw [hn.idxOf_getElem, List.append_nil]

section Variant

variable [Codec α] [Timed α] {front : List UInt8}

/-- A variant that holds nothing. -/
theorem reads_bare {value : α} (hw : write value = front) (ho : offsets value = []) :
    Reads (pure value) fun value used => Resembles (front ++ used) (write value) (offsets value) := by
  refine reads_pure ?_
  rw [List.append_nil, hw, ho]
  exact .refl front

/-- A variant that holds one thing. -/
theorem reads_single [Canonical α] [Codec β] [Timed β] {make : α → β}
    (hw : ∀ value, write (make value) = front ++ write value)
    (ho : ∀ value, offsets (make value) = (offsets value).map (front.length + ·)) :
    Reads (do return make (← read)) fun value used =>
      Resembles (front ++ used) (write value) (offsets value) := by
  refine reads_field fun value before hb => reads_pure ?_
  rw [List.append_nil, hw, ho]
  exact (Resembles.refl front).append hb

/-- A variant that holds two things, neither a duration. -/
theorem reads_pair {γ : Type} [Canonical α] [Codec β] [Timed β] [Canonical β] [Codec γ] [Timed γ]
    {make : α → β → γ} (hw : ∀ first second, write (make first second) =
      front ++ write first ++ write second)
    (hf : ∀ first : α, offsets first = []) (hs : ∀ second : β, offsets second = [])
    (ho : ∀ first second, offsets (make first second) = []) :
    Reads (do return make (← read) (← read)) fun value used =>
      Resembles (front ++ used) (write value) (offsets value) := by
  refine reads_field fun first before hb => reads_field fun second after ha => reads_pure ?_
  rw [hf] at hb
  rw [hs] at ha
  rw [hw, ho, hb.eq, ha.eq, List.append_nil, ← List.append_assoc]
  exact .refl _

end Variant

instance [Timed ε] [Timed α] : Timed (Except ε α) where
  offsets
    | .ok value => (offsets value).map (4 + ·)
    | .error error => (offsets error).map (4 + ·)

instance [Codec ε] [Timed ε] [Canonical ε] [Codec α] [Timed α] [Canonical α] :
    Canonical (Except ε α) where
  reads := by
    refine reads_index fun index => ?_
    by_cases h0 : index = 0
    · rw [if_pos h0, h0]
      exact reads_single (fun _ => rfl) fun _ => rfl
    by_cases h1 : index = 1
    · rw [if_neg h0, if_pos h1, h1]
      exact reads_single (fun _ => rfl) fun _ => rfl
    · rw [if_neg h0, if_neg h1]
      exact reads_throw

/-! ## The vocabulary of chip, drive and host -/

instance : Timed Status := {}

instance : Canonical Status where
  reads := by
    refine reads_variant fun index hi => ?_
    cases hs : Status.documented[index]? with
    | none =>
      obtain rfl : index = Status.documented.length := by
        have := List.getElem?_eq_none_iff.1 hs
        omega
      exact reads_single (fun _ => rfl) fun _ => rfl
    | some status =>
      obtain ⟨hi, rfl⟩ := List.getElem?_eq_some_iff.1 hs
      refine reads_bare ?_ rfl
      have hd : Status.documented.Nodup := by decide
      have ho (byte : UInt8) : Status.documented[index] ≠ .other byte := by
        intro he
        have hm := List.getElem_mem hi
        rw [he] at hm
        simp [Status.documented] at hm
      rw [write_documented ho, hd.idxOf_getElem]

instance : Timed Command := {}

instance : Canonical Command where
  reads := (reads_readListed (by decide)).imp fun _ _ h => h ▸ .refl _

instance : Timed UsbMode := {}

instance : Canonical UsbMode where
  reads := (reads_readListed (by decide)).imp fun _ _ h => h ▸ .refl _

instance : Timed StatusMode := {}

instance : Canonical StatusMode where
  reads := (reads_readListed (by decide)).imp fun _ _ h => h ▸ .refl _

instance : Timed Config where
  offsets _ := [4, 16, 28, 40]

instance : Canonical Config where
  reads := by
    refine reads_field fun statusMode a ha => reads_field fun beforeReset b hb =>
      reads_field fun afterReset c hc => reads_field fun modeSwitch d hd =>
      reads_field fun directAnswer e he => reads_pure ?_
    rw [List.append_nil, ← List.append_assoc, ← List.append_assoc, ← List.append_assoc]
    exact (((ha.append hb).append hc).append hd).append he

instance : Timed UsbInfo := {}

instance : Canonical UsbInfo where
  reads := by
    refine reads_field fun vendor a ha => reads_field fun product b hb =>
      reads_field fun bus c hc => reads_field fun address d hd => reads_pure ?_
    rw [List.append_nil, ← List.append_assoc, ← List.append_assoc]
    exact ((ha.append hb).append hc).append hd

/-! ## Errors -/

instance : Timed TrafficError := {}

instance : Canonical TrafficError where
  reads := by
    refine reads_variant fun index hi => ?_
    match index, hi with
    | 0, _ => exact reads_pair (fun _ _ => rfl) (fun _ => rfl) (fun _ => rfl) fun _ _ => rfl
    | 1, _ => exact reads_bare rfl rfl
    | 2, _ => exact reads_bare rfl rfl
    | 3, _ =>
      refine reads_field fun sent a ha => reads_field fun expected b hb =>
        reads_field fun actual c hc => reads_pure ?_
      rw [List.append_nil, ← List.append_assoc, ← List.append_assoc]
      exact (((Resembles.refl (writeIndex 3)).append ha).append hb).append hc
    | 4, _ => exact reads_pair (fun _ _ => rfl) (fun _ => rfl) (fun _ => rfl) fun _ _ => rfl
    | 5, _ => exact reads_pair (fun _ _ => rfl) (fun _ => rfl) (fun _ => rfl) fun _ _ => rfl

instance : Timed AccessError := {}

instance : Canonical AccessError where
  reads := by
    refine reads_variant fun index hi => ?_
    match index, hi with
    | 0, _ => exact reads_bare rfl rfl
    | 1, _ => exact reads_pair (fun _ _ => rfl) (fun _ => rfl) (fun _ => rfl) fun _ _ => rfl
    | 2, _ => exact reads_bare rfl rfl
    | 3, _ => exact reads_pair (fun _ _ => rfl) (fun _ => rfl) (fun _ => rfl) fun _ _ => rfl
    | 4, _ => exact reads_pair (fun _ _ => rfl) (fun _ => rfl) (fun _ => rfl) fun _ _ => rfl

instance : Timed PathError := {}

instance : Canonical PathError where
  reads := by
    refine reads_variant fun index hi => ?_
    match index, hi with
    | 0, _ => exact reads_bare rfl rfl
    | 1, _ => exact reads_single (fun _ => rfl) fun _ => rfl
    | 2, _ => exact reads_pair (fun _ _ => rfl) (fun _ => rfl) (fun _ => rfl) fun _ _ => rfl
    | 3, _ => exact reads_single (fun _ => rfl) fun _ => rfl
    | 4, _ => exact reads_pair (fun _ _ => rfl) (fun _ => rfl) (fun _ => rfl) fun _ _ => rfl

instance : Timed StreamError := {}

instance : Canonical StreamError where
  reads := by
    refine reads_variant fun index hi => ?_
    match index, hi with
    | 0, _ => exact reads_pair (fun _ _ => rfl) (fun _ => rfl) (fun _ => rfl) fun _ _ => rfl

instance : Timed Error where
  offsets
    | .timeout _ => [4]
    | _ => []

instance : Canonical Error where
  reads := by
    refine reads_variant fun index hi => ?_
    match index, hi with
    | 0, _ =>
      refine reads_variant fun index hi => ?_
      obtain rfl : index = 0 := by omega
      refine reads_field fun message before hb => reads_pure ?_
      obtain rfl : before = write message := hb.eq
      rw [List.append_nil, ← List.append_assoc]
      exact .refl _
    | 1, _ => exact reads_single (fun _ => rfl) fun _ => rfl
    | 2, _ => exact reads_single (fun _ => rfl) fun _ => rfl
    | 3, _ => exact reads_single (fun _ => rfl) fun _ => rfl
    | 4, _ => exact reads_single (fun _ => rfl) fun _ => rfl
    | 5, _ => exact reads_single (fun _ => rfl) fun _ => rfl
    | 6, _ => exact reads_pair (fun _ _ => rfl) (fun _ => rfl) (fun _ => rfl) fun _ _ => rfl
    | 7, _ => exact reads_single (fun _ => rfl) fun _ => rfl
    | 8, _ => exact reads_single (fun _ => rfl) fun _ => rfl

/-! ## Messages of the bridge -/

instance : Timed Bus.Call where
  offsets
    | .pause _ => [4]
    | _ => []

instance : Canonical Bus.Call where
  reads := by
    refine reads_variant fun index hi => ?_
    match index, hi with
    | 0, _ => exact reads_bare rfl rfl
    | 1, _ => exact reads_bare rfl rfl
    | 2, _ => exact reads_single (fun _ => rfl) fun _ => rfl
    | 3, _ => exact reads_bare rfl rfl
    | 4, _ => exact reads_single (fun _ => rfl) fun _ => rfl

instance : Timed Remote.Response where
  offsets
    | .began result => (offsets result).map (4 + ·)
    | .finished result => (offsets result).map (4 + ·)
    | .exchanged result => (offsets result).map (4 + ·)
    | .polled result => (offsets result).map (4 + ·)
    | .paused => []

instance : Canonical Remote.Response where
  reads := by
    refine reads_variant fun index hi => ?_
    match index, hi with
    | 0, _ => exact reads_single (fun _ => rfl) fun _ => rfl
    | 1, _ => exact reads_single (fun _ => rfl) fun _ => rfl
    | 2, _ => exact reads_single (fun _ => rfl) fun _ => rfl
    | 3, _ => exact reads_single (fun _ => rfl) fun _ => rfl
    | 4, _ => exact reads_bare rfl rfl

/-! ## Values and their forms -/

/-- The form is short enough for the eight bytes that hold the length of a text. -/
def Bounded [Codec α] (value : α) : Prop := (encode value).length < UInt64.size

/-- The binary form of the values that fit. -/
structure Faithful (α : Type) [Codec α] [Timed α] (fits : α → Prop) : Prop where
  /-- A value is read from its form, whatever follows. -/
  decode_append (value : α) (tail : List UInt8) :
    fits value → decode α (encode value ++ tail) = .ok value
  /-- A form that is cut off anywhere is no form. -/
  decode_prefix (value : α) (bytes : List UInt8) :
    fits value → bytes <+: encode value → bytes ≠ encode value → ∃ error, decode α bytes = .error error
  /-- What is read as a value is its form, exactly if no duration in it has a second or more in its
  nanoseconds. -/
  encode_read (bytes : List UInt8) (value : α) (rest : List UInt8) :
    (read : Reader α).run bytes = .ok (value, rest) →
      ∃ used, bytes = used ++ rest ∧
        (encode value = used ↔ ∀ offset ∈ offsets value, nanosAt bytes offset < nanosPerSecond)
  /-- Whatever a value was read from, it is read from its form as well. -/
  decode_encode_read (bytes : List UInt8) (value : α) : bytes.length < UInt64.size →
    decode α bytes = .ok value → decode α (encode value) = .ok value

section Faithful

variable [Codec α]

theorem decode_append [Lawful α] {value : α} (h : Bounded value) (tail : List UInt8) :
    decode α (encode value ++ tail) = .ok value := by
  rw [decode, encode, run_read value tail h]
  rfl

theorem decode_eq_ok_iff {bytes : List UInt8} {value : α} :
    decode α bytes = .ok value ↔ ∃ rest, (read : Reader α).run bytes = .ok (value, rest) := by
  rw [decode]
  cases hr : (read : Reader α).run bytes with
  | error error =>
    constructor
    · intro h
      cases h
    · rintro ⟨_, h⟩
      cases h
  | ok result =>
    obtain ⟨found, rest⟩ := result
    constructor
    · intro h
      cases h
      exact ⟨rest, rfl⟩
    · rintro ⟨_, ⟨⟩⟩
      rfl

variable [Timed α] [Canonical α]

/-- More bytes would have been left over, but nothing is. -/
theorem decode_prefix [Lawful α] {value : α} (h : Bounded value) {bytes : List UInt8}
    (hp : bytes <+: encode value) (hn : bytes ≠ encode value) :
    ∃ error, decode α bytes = .error error := by
  obtain ⟨tail, ht⟩ := hp
  cases hd : decode α bytes with
  | error error => exact ⟨error, rfl⟩
  | ok found =>
    obtain ⟨rest, hr⟩ := decode_eq_ok_iff.1 hd
    have hw := run_read value [] h
    have hm := (Canonical.reads _ _ _ hr).2 tail
    rw [ht, encode, ← List.append_nil (write value), hw] at hm
    have hl : rest ++ tail = [] := (congrArg Prod.snd (Except.ok.inj hm)).symm
    rw [(List.append_eq_nil_iff.1 hl).2, List.append_nil] at ht
    exact absurd ht hn

theorem resembles_of_read {bytes rest : List UInt8} {value : α}
    (h : (read : Reader α).run bytes = .ok (value, rest)) :
    ∃ used, bytes = used ++ rest ∧ Resembles used (encode value) (offsets value) :=
  (Canonical.reads _ _ _ h).1

theorem encode_read {bytes rest : List UInt8} {value : α}
    (h : (read : Reader α).run bytes = .ok (value, rest)) :
    ∃ used, bytes = used ++ rest ∧
      (encode value = used ↔ ∀ offset ∈ offsets value, nanosAt bytes offset < nanosPerSecond) := by
  obtain ⟨used, rfl, hu⟩ := resembles_of_read h
  refine ⟨used, rfl, eq_comm.trans (hu.eq_iff.trans ?_)⟩
  refine forall₂_congr fun offset ho => ?_
  rw [nanosAt_append_left _ (hu.length ▸ hu.within offset ho)]

theorem bounded_of_decode {bytes : List UInt8} {value : α} (hl : bytes.length < UInt64.size)
    (h : decode α bytes = .ok value) : Bounded value := by
  obtain ⟨rest, hr⟩ := decode_eq_ok_iff.1 h
  obtain ⟨used, rfl, hu⟩ := resembles_of_read hr
  rw [List.length_append, hu.length] at hl
  exact Nat.lt_of_le_of_lt (Nat.le_add_right _ _) hl

theorem faithful [Lawful α] {fits : α → Prop} (hf : ∀ value, fits value → Bounded value) :
    Faithful α fits where
  decode_append _ tail h := decode_append (hf _ h) tail
  decode_prefix _ _ h := decode_prefix (hf _ h)
  encode_read _ _ _ := encode_read
  decode_encode_read _ _ hl h := decode_encode (bounded_of_decode hl h)

end Faithful

theorem bounded_of_length [Codec α] {value : α} (length : Nat)
    (h : (encode value).length = length) (hl : length < UInt64.size) : Bounded value := by
  unfold Bounded
  omega

theorem bounded_status (status : Status) : Bounded status := by
  cases status with
  | other byte => exact bounded_of_length 5 rfl (by decide)
  | _ => exact bounded_of_length 4 rfl (by decide)

theorem bounded_call (call : Bus.Call) : Bounded call := by
  cases call with
  | begin | finish | poll => exact bounded_of_length 4 rfl (by decide)
  | exchange byte => exact bounded_of_length 5 rfl (by decide)
  | pause span => exact bounded_of_length 16 rfl (by decide)

/-- **Binary form.** Each type of value that is stored or crosses the bridge: a value is read from
its form, whatever follows, and from no part of it. Bytes that are read as a value are its form,
unless they give a duration a second or more in its nanoseconds; the value is read from its form all
the same. Errors and responses can hold texts, so there the form has to fit its length. -/
theorem wire_faithful :
    Faithful Error Bounded ∧ Faithful Status (fun _ => True) ∧ Faithful Command (fun _ => True) ∧
      Faithful UsbMode (fun _ => True) ∧ Faithful StatusMode (fun _ => True) ∧
      Faithful Config (fun _ => True) ∧ Faithful UsbInfo (fun _ => True) ∧
      Faithful Bus.Call (fun _ => True) ∧ Faithful Remote.Response Bounded := by
  refine ⟨faithful fun _ h => h, faithful fun status _ => bounded_status status,
    faithful fun command _ => ?_, faithful fun mode _ => ?_, faithful fun mode _ => ?_,
    faithful fun config _ => ?_, faithful fun info _ => ?_, faithful fun call _ => bounded_call call,
    faithful fun _ h => h⟩
  · exact bounded_of_length 4 rfl (by decide)
  · exact bounded_of_length 4 rfl (by decide)
  · exact bounded_of_length 4 rfl (by decide)
  · exact bounded_of_length 52 rfl (by decide)
  · exact bounded_of_length 6 rfl (by decide)

/-- A response whose error is a timeout of 7 s and 1500000000 ns, as bytes. -/
def overfull : List UInt8 :=
  [0, 0, 0, 0, 1, 0, 0, 0, 3, 0, 0, 0, 7, 0, 0, 0, 0, 0, 0, 0, 0x00, 0x2f, 0x68, 0x59]

/-- One of 8.5 s. -/
def carriedOver : Remote.Response := .began (.error (.timeout ⟨8, 500000000, by decide⟩))

/-- The former is read as the latter, whose form is another one, of which no part is a response. -/
theorem wire_faithful_carried :
    decode Remote.Response (overfull ++ [0xff]) = .ok carriedOver ∧
      encode carriedOver ≠ overfull ∧
      decode Remote.Response (encode carriedOver) = .ok carriedOver ∧
      ∃ error, decode Remote.Response ((encode carriedOver).take 23) = .error error := by
  obtain ⟨-, -, -, -, -, -, -, -, hf⟩ := wire_faithful
  have hr : (read : Reader Remote.Response).run (overfull ++ [0xff]) = .ok (carriedOver, [0xff]) := by
    unfold overfull carriedOver
    rfl
  have hb : Bounded carriedOver := bounded_of_length 24 rfl (by decide)
  refine ⟨decode_eq_ok_iff.2 ⟨_, hr⟩, fun he => ?_, ?_, ?_⟩
  · obtain ⟨used, hu, hi⟩ := hf.encode_read _ _ _ hr
    have hn := hi.1 (he.trans (List.append_cancel_right hu)) 12 (by decide)
    exact absurd hn (by decide)
  · exact hf.decode_encode_read (overfull ++ [0xff]) carriedOver (by decide)
      (decode_eq_ok_iff.2 ⟨_, hr⟩)
  · exact hf.decode_prefix carriedOver _ hb (List.take_prefix _ _) (by decide)

end Codec

end DiskBridge
