import DiskBridge.Adapter.Setup
import DiskBridge.Proofs.Outcome
import Mathlib.Data.List.Induction
import Mathlib.Logic.Relation

/-!
# The search for an adapter

The wanted adapter is the one of a given number among the adapters on the bus. The search counts the
adapters it passes in one byte, on a bus that may hold more of them than a byte can count.

1. `Offers` says which devices a host has on its bus, each with its descriptor or a fault, and with
   what comes of opening it.
2. `Place` is where the search stands between two devices, and `Passes` its step over one of them.
   The search ends the same way from a place and from the next one (`Passes.ending_eq`).
3. `Tallied` is the invariant: the devices so far could be read, the count of adapters among them
   is exact and at most the wanted number, and none was opened. One step keeps it (`Tallied.pass`),
   and so does a run (`Offers.tallied_of_passes`).
4. The search passes devices that can be read for as long as no adapter beyond the wanted number is
   among them (`Offers.exists_tallied`). `Tallied.ending_exhausted`, `Tallied.ending_unreadable` and
   `Tallied.ending_wanted` say how it ends there.

`find_opens_numbered` states it for every bus and every number.
-/

namespace DiskBridge.Adapter

open Dialogue Relation

variable {τ : Type}

/-! ## Devices on a bus -/

/-- A device on the bus: where it is plugged in, its descriptor, and what comes of opening it. -/
structure Plugged where
  location : Usb.Location
  descriptor : Except Usb.Fault Usb.Identity
  opening : Except Usb.Fault Unit

namespace Plugged

def Readable (device : Plugged) : Prop := ∃ identity, device.descriptor = .ok identity

/-- The device says that it is an adapter. -/
def isAdapter (device : Plugged) : Bool :=
  match device.descriptor with
  | .ok ⟨vendor, product⟩ => vendor = 0x1a86 && product = 0x5512
  | .error _ => false

/-- What an attempt to take the device into use gives. -/
def taken (device : Plugged) : Except Error Usb.Location :=
  match device.opening with
  | .ok () => .ok device.location
  | .error fault => .error fault.toError

/-- The count of adapters once the device is passed. -/
def tally (device : Plugged) (found : UInt8) : UInt8 :=
  if device.isAdapter then found + 1 else found

theorem isAdapter_iff {device : Plugged} {described : Usb.Identity}
    (h : device.descriptor = .ok described) : device.isAdapter = true ↔ described = identity := by
  obtain ⟨vendor, product⟩ := described
  simp [isAdapter, h, identity]

theorem descriptor_of_isAdapter {device : Plugged} (h : device.isAdapter = true) :
    device.descriptor = .ok identity := by
  cases hd : device.descriptor with
  | error fault => simp [isAdapter, hd] at h
  | ok described => rw [(isAdapter_iff hd).1 h]

end Plugged

/-- The number of adapters among some devices. -/
def adapters (devices : List Plugged) : Nat := devices.countP Plugged.isAdapter

theorem adapters_append (before after : List Plugged) :
    adapters (before ++ after) = adapters before + adapters after := List.countP_append

/-- The count does not overflow while it is below another byte. -/
theorem Plugged.toNat_tally {device : Plugged} {found wanted : UInt8} (hf : found ≤ wanted)
    (hw : device.isAdapter = true → found ≠ wanted) :
    (device.tally found).toNat = found.toNat + adapters [device] ∧ device.tally found ≤ wanted := by
  have hf := UInt8.le_iff_toNat_le.1 hf
  have hb := wanted.toNat_lt
  rw [UInt8.le_iff_toNat_le, tally, adapters, List.countP_singleton]
  by_cases ha : device.isAdapter = true
  · have hn : found.toNat ≠ wanted.toNat := fun he => hw ha (UInt8.toNat_inj.1 he)
    have hs : (found + 1).toNat = found.toNat + 1 := by
      rw [UInt8.toNat_add, UInt8.toNat_one]
      omega
    rw [if_pos ha, if_pos ha, hs]
    omega
  · rw [if_neg ha, if_neg ha]
    omega

/-- The numbers of the devices that a host was told to open. -/
def opened (events : List (Event Usb)) : List Nat :=
  events.filterMap fun event =>
    match event.request with
    | .openDevice index => some index
    | _ => none

/-- A host with certain devices on its bus, as long as it is in a state that `holds`. To list and to
describe them keeps it there. -/
structure Offers (host : Machine Usb τ) (holds : τ → Prop) (devices : List Plugged) : Prop where
  list {state : τ} : holds state →
    (host .list state).reply = .ok (devices.map Plugged.location) ∧ holds (host .list state).state
  descriptor {state : τ} {index : Nat} {device : Plugged} : holds state →
    devices[index]? = some device →
      (host (.descriptor index) state).reply = device.descriptor ∧
        holds (host (.descriptor index) state).state
  opening {state : τ} {index : Nat} {device : Plugged} : holds state →
    devices[index]? = some device → (host (.openDevice index) state).reply = device.opening

theorem Offers.recorded {host : Machine Usb τ} {holds : τ → Prop} {devices : List Plugged}
    (offers : Offers host holds devices) :
    Offers host.recorded (fun watched => holds watched.1) devices where
  list h := offers.list h
  descriptor h hd := offers.descriptor h hd
  opening h hd := offers.opening h hd

/-! ## One device -/

theorem outcome_call (host : Machine Usb τ) (request : Usb.Request)
    (reply : Usb.Request.Reply request → Except Usb.Fault α) (state : τ) :
    (call request reply).outcome host state =
      ((reply (host request state).reply).mapError Usb.Fault.toError,
        (host request state).state) := by
  rw [call, outcome_ask]
  cases reply (host request state).reply <;> rfl

section Look

variable {host : Machine Usb τ} {state : τ} {wanted found : UInt8} {index : Nat} {device : Plugged}
  (hr : (host (.descriptor index) state).reply = device.descriptor)

include hr

/-- A device that cannot be read ends the search. -/
theorem outcome_look_fault {fault : Usb.Fault} (hd : device.descriptor = .error fault) :
    (look wanted index found).outcome host state =
      (.error fault.toError, (host (.descriptor index) state).state) := by
  refine outcome_bind_error ?_
  rw [outcome_call, hr, hd]
  rfl

theorem outcome_describe {described : Usb.Identity} (hd : device.descriptor = .ok described) :
    (call (.descriptor index) id).outcome host state =
      (.ok described, (host (.descriptor index) state).state) := by
  rw [outcome_call, hr, hd]
  rfl

/-- A device is passed, and counted if it is an adapter, unless it is the wanted one. -/
theorem outcome_look_pass (hd : device.Readable) (hw : device.isAdapter = true → found ≠ wanted) :
    (look wanted index found).outcome host state =
      (.ok (some (device.tally found)), (host (.descriptor index) state).state) := by
  obtain ⟨described, hd⟩ := hd
  rw [look, outcome_bind_ok (outcome_describe hr hd), Plugged.tally]
  by_cases ha : device.isAdapter = true
  · rw [if_pos ((Plugged.isAdapter_iff hd).1 ha), if_neg (hw ha), if_pos ha]
    rfl
  · rw [if_neg (mt (Plugged.isAdapter_iff hd).2 ha), if_neg ha]
    rfl

/-- The wanted adapter is opened. -/
theorem outcome_look_wanted (ha : device.isAdapter = true) :
    let opening := host (.openDevice index) (host (.descriptor index) state).state
    (look found index found).outcome host state =
      ((opening.reply.mapError Usb.Fault.toError).map fun _ => none, opening.state) := by
  intro opening
  have hd := outcome_describe hr (Plugged.descriptor_of_isAdapter ha)
  rw [look, outcome_bind_ok hd, if_pos rfl, if_pos rfl, outcome_say_bind, outcome_bind,
    outcome_call]
  show _ = ((opening.reply.mapError _).map _, _)
  cases opening.reply <;> rfl

/-- Nothing else is passed. -/
theorem readable_of_look_eq_some {counted : UInt8} {next : τ}
    (h : (look wanted index found).outcome host state = (.ok (some counted), next)) :
    device.Readable ∧ (device.isAdapter = true → found ≠ wanted) := by
  constructor
  · cases hd : device.descriptor with
    | error fault =>
      rw [outcome_look_fault hr hd] at h
      cases h
    | ok described => exact ⟨described, hd⟩
  · rintro ha rfl
    rw [outcome_look_wanted hr ha] at h
    generalize (host (.openDevice index) _).reply = reply at h
    cases reply <;> cases h

end Look

/-! ## Places of the search -/

/-- Where the search stands: the number of the next device, the count of adapters passed, what is
left of the bus, and the state of the host. -/
structure Place (τ : Type) where
  index : Nat
  found : UInt8
  rest : List Usb.Location
  state : τ

/-- The search passes one device and goes on to the next place. -/
inductive Passes (host : Machine Usb τ) (wanted : UInt8) : Place τ → Place τ → Prop
  | pass {index : Nat} {found counted : UInt8} {location : Usb.Location}
      {rest : List Usb.Location} {state next : τ} :
      (look wanted index found).outcome host state = (.ok (some counted), next) →
        Passes host wanted ⟨index, found, location :: rest, state⟩
          ⟨index + 1, counted, rest, next⟩

/-- The first place of the search on a host with certain devices. -/
def Place.first (host : Machine Usb τ) (devices : List Plugged) (state : τ) : Place τ :=
  ⟨0, 0, devices.map Plugged.location, (host .list state).state⟩

/-- How the search ends from a place. -/
def Place.ending (host : Machine Usb τ) (wanted : UInt8) (place : Place τ) :
    Except Error Usb.Location × τ :=
  (search wanted place.index place.found place.rest).outcome host place.state

theorem Passes.ending_eq {host : Machine Usb τ} {wanted : UInt8} {place next : Place τ}
    (h : Passes host wanted place next) : place.ending host wanted = next.ending host wanted := by
  obtain ⟨hl⟩ := h
  rw [Place.ending, search, outcome_bind_ok hl]
  rfl

theorem ending_eq_of_passes {host : Machine Usb τ} {wanted : UInt8} {place last : Place τ}
    (h : ReflTransGen (Passes host wanted) place last) :
    place.ending host wanted = last.ending host wanted := by
  induction h with
  | refl => rfl
  | tail _ hp ih => exact ih.trans hp.ending_eq

/-- A run ends as it does from each place on its way. -/
theorem Offers.ending_of_passes {host : Machine Usb τ} {holds : τ → Prop} {devices : List Plugged}
    (offers : Offers host holds devices) {state : τ} (hs : holds state) (index : Option UInt8)
    (journal : Journal) {place : Place τ}
    (h : ReflTransGen (Passes host (index.getD 0)) (.first host devices state) place) :
    let ran := (find index).run host state journal
    place.ending host (index.getD 0) = (ran.result, ran.state) := by
  intro ran
  have hf : (find index).outcome host state =
      (Place.first host devices state).ending host (index.getD 0) := by
    refine outcome_bind_ok ?_
    rw [outcome_call, (offers.list hs).1]
    rfl
  rw [← ending_eq_of_passes h, ← hf, outcome_run host (find index) state journal]

/-! ## What the places keep -/

/-- The search has passed the devices `before` and has `after` left: all it passed could be read,
the count of adapters among them is exact and has not gone beyond the wanted number, and no device
was opened. -/
structure Tallied (holds : τ → Prop) (wanted : UInt8) (before after : List Plugged)
    (place : Place (τ × List (Event Usb))) : Prop where
  index_eq : place.index = before.length
  rest_eq : place.rest = after.map Plugged.location
  readable : ∀ device ∈ before, device.Readable
  toNat_found : place.found.toNat = adapters before
  found_le : place.found ≤ wanted
  holds : holds place.state.1
  untouched : opened place.state.2 = []

section Search

variable {host : Machine Usb τ} {holds : τ → Prop} {before after : List Plugged}
  {device : Plugged} {wanted : UInt8} {place next : Place (τ × List (Event Usb))}

theorem Offers.tallied_first (offers : Offers host holds after) {state : τ} (hs : holds state) :
    Tallied holds wanted [] after (.first host.recorded after (state, [])) where
  index_eq := rfl
  rest_eq := rfl
  readable := by simp
  toNat_found := rfl
  found_le := UInt8.zero_le
  holds := (offers.list hs).2
  untouched := rfl

theorem Tallied.getElem?_index (h : Tallied holds wanted before (device :: after) place) :
    (before ++ device :: after)[place.index]? = some device := by
  rw [h.index_eq]
  simp

section Next

variable (offers : Offers host holds (before ++ device :: after))
  (h : Tallied holds wanted before (device :: after) place)

include offers h

/-- The host describes the next device, and is not told to open any. -/
theorem Tallied.described :
    let described := host.recorded (.descriptor place.index) place.state
    described.reply = device.descriptor ∧ holds described.state.1 ∧
      opened described.state.2 = [] := by
  obtain ⟨hr, hn⟩ := offers.recorded.descriptor h.holds h.getElem?_index
  exact ⟨hr, hn, h.untouched⟩

/-- The search passes a device that can be read and is not the wanted adapter. -/
theorem Tallied.exists_pass (hd : device.Readable)
    (hw : device.isAdapter = true → place.found ≠ wanted) :
    ∃ next, Passes host.recorded wanted place next := by
  have hl := outcome_look_pass (h.described offers).1 hd hw
  obtain ⟨index, found, rest, state⟩ := place
  obtain rfl := h.rest_eq
  exact ⟨_, .pass hl⟩

theorem Tallied.pass (hp : Passes host.recorded wanted place next) :
    Tallied holds wanted (before ++ [device]) after next := by
  obtain ⟨hr, hs, ho⟩ := h.described offers
  obtain ⟨index, found, rest, state⟩ := place
  obtain rfl := h.rest_eq
  obtain ⟨hl⟩ := hp
  obtain ⟨hd, hw⟩ := readable_of_look_eq_some hr hl
  rw [outcome_look_pass hr hd hw] at hl
  cases hl
  obtain ⟨hc, hle⟩ := Plugged.toNat_tally h.found_le hw
  exact {
    index_eq := by rw [List.length_append, ← h.index_eq]; rfl
    rest_eq := rfl
    readable := List.forall_mem_append.2 ⟨h.readable, List.forall_mem_singleton.2 hd⟩
    toNat_found := by rw [adapters_append, ← h.toNat_found]; exact hc
    found_le := hle
    holds := hs
    untouched := ho }

end Next

/-! ## Whole runs -/

/-- At every place the search has passed a front of the bus and kept count. -/
theorem Offers.tallied_of_passes {devices : List Plugged} (offers : Offers host holds devices)
    {state : τ} (hs : holds state)
    (h : ReflTransGen (Passes host.recorded wanted) (.first host.recorded devices (state, []))
      place) :
    ∃ before after, devices = before ++ after ∧ Tallied holds wanted before after place := by
  induction h with
  | refl => exact ⟨[], devices, rfl, offers.tallied_first hs⟩
  | tail _ hp ih =>
    obtain ⟨before, after, rfl, ht⟩ := ih
    cases after with
    | nil =>
      -- A place without a next device passes none.
      obtain ⟨-⟩ := hp
      cases ht.rest_eq
    | cons device after => exact ⟨before ++ [device], after, by simp, ht.pass offers hp⟩

/-- The search gets past every front of the bus that can be read and holds no adapter beyond those
before the wanted one. -/
theorem Offers.exists_tallied (offers : Offers host holds (before ++ after)) {state : τ}
    (hs : holds state) (hr : ∀ device ∈ before, device.Readable)
    (ha : adapters before ≤ wanted.toNat) :
    ∃ place, ReflTransGen (Passes host.recorded wanted)
      (.first host.recorded (before ++ after) (state, [])) place ∧
        Tallied holds wanted before after place := by
  induction before using List.reverseRecOn generalizing after with
  | nil => exact ⟨_, .refl, offers.tallied_first hs⟩
  | append_singleton before device ih =>
    rw [List.append_assoc, List.singleton_append] at offers ⊢
    obtain ⟨hr, hd⟩ := List.forall_mem_append.1 hr
    rw [adapters_append] at ha
    obtain ⟨place, hp, ht⟩ := ih offers hr (by omega)
    -- An adapter that is passed is counted, so the count before it was below the wanted number.
    have hw : device.isAdapter = true → place.found ≠ wanted := by
      rintro hi rfl
      rw [ht.toNat_found, adapters, adapters, List.countP_singleton, if_pos hi] at ha
      omega
    obtain ⟨next, hn⟩ := ht.exists_pass offers (List.forall_mem_singleton.1 hd) hw
    exact ⟨next, hp.tail hn, ht.pass offers hn⟩

/-- So it ends as it does from the place behind such a front. -/
theorem Offers.find_past (offers : Offers host holds (before ++ after)) {state : τ}
    (hs : holds state) (index : Option UInt8) (journal : Journal)
    (hr : ∀ device ∈ before, device.Readable) (ha : adapters before ≤ (index.getD 0).toNat) :
    let ran := (find index).run host.recorded (state, []) journal
    ∃ place, Tallied holds (index.getD 0) before after place ∧
      place.ending host.recorded (index.getD 0) = (ran.result, ran.state) := by
  intro ran
  obtain ⟨place, hp, ht⟩ := offers.exists_tallied hs hr ha
  exact ⟨place, ht, offers.recorded.ending_of_passes hs index journal hp⟩

/-! ## How the search ends -/

theorem Tallied.ending_exhausted (h : Tallied holds wanted before [] place) :
    place.ending host.recorded wanted =
      (.error (.access (.notFound 0x1a86 0x5512)), place.state) := by
  rw [Place.ending, h.rest_eq]
  rfl

theorem Tallied.ending_unreadable (offers : Offers host holds (before ++ device :: after))
    (h : Tallied holds wanted before (device :: after) place) {fault : Usb.Fault}
    (hd : device.descriptor = .error fault) :
    ∃ last, place.ending host.recorded wanted = (.error fault.toError, last) ∧
      opened last.2 = [] := by
  obtain ⟨hr, -, ho⟩ := h.described offers
  refine ⟨_, ?_, ho⟩
  rw [Place.ending, h.rest_eq]
  exact outcome_bind_error (outcome_look_fault hr hd)

theorem Tallied.ending_wanted (offers : Offers host holds (before ++ device :: after))
    (h : Tallied holds wanted before (device :: after) place) (ha : device.isAdapter = true)
    (hw : adapters before = wanted.toNat) :
    ∃ last, place.ending host.recorded wanted = (device.taken, last) ∧
      opened last.2 = [before.length] := by
  obtain ⟨hr, hs, ho⟩ := h.described offers
  obtain rfl : place.found = wanted := UInt8.toNat_inj.1 (h.toNat_found.trans hw)
  have hp := offers.recorded.opening hs h.getElem?_index
  refine ⟨(host.recorded (.openDevice place.index)
    (host.recorded (.descriptor place.index) place.state).state).state, ?_, ?_⟩
  · rw [Place.ending, h.rest_eq, List.map_cons, search, outcome_bind, outcome_look_wanted hr ha, hp,
      Plugged.taken]
    cases device.opening <;> rfl
  · show place.index :: opened (host.recorded (.descriptor place.index) place.state).state.2 = _
    rw [ho, h.index_eq]

end Search

/-- **Finding an adapter.** On every bus and for every number, the first adapter if none is given:

* The adapter with that many adapters before it is opened, if all devices before it can be read, and
  no other. The result is that adapter, or the fault of opening it.
* The first device that cannot be read ends the search, if the wanted adapter is not before it.
* If all devices can be read and there are not enough adapters, none is found.
* At every place on the way the byte that counts the adapters is exact, so it has not overflowed,
  and it is at most the wanted number. -/
theorem find_opens_numbered {host : Machine Usb τ} {holds : τ → Prop} {devices : List Plugged}
    (offers : Offers host holds devices) (state : τ) (start : holds state) (index : Option UInt8)
    (journal : Journal) :
    let wanted := index.getD 0
    let ran := (find index).run host.recorded (state, []) journal
    (∀ before device after, devices = before ++ device :: after →
      (∀ other ∈ before, other.Readable) → device.isAdapter = true →
        adapters before = wanted.toNat →
          ran.result = device.taken ∧ opened ran.state.2 = [before.length]) ∧
    (∀ before device after fault, devices = before ++ device :: after →
      (∀ other ∈ before, other.Readable) → device.descriptor = .error fault →
        adapters before ≤ wanted.toNat →
          ran.result = .error fault.toError ∧ opened ran.state.2 = []) ∧
    ((∀ device ∈ devices, device.Readable) → adapters devices ≤ wanted.toNat →
      ran.result = .error (.access (.notFound 0x1a86 0x5512)) ∧ opened ran.state.2 = []) ∧
    ∀ place, ReflTransGen (Passes host.recorded wanted) (.first host.recorded devices (state, []))
      place → place.ending host.recorded wanted = (ran.result, ran.state) ∧
        place.found ≤ wanted ∧ place.found.toNat = adapters (devices.take place.index) := by
  intro wanted ran
  refine ⟨?_, ?_, ?_, ?_⟩
  · rintro before device after rfl hr ha hn
    obtain ⟨place, ht, he⟩ := offers.find_past start index journal hr (Nat.le_of_eq hn)
    obtain ⟨last, hl, ho⟩ := ht.ending_wanted offers ha hn
    obtain ⟨h, rfl⟩ := Prod.mk.inj (he.symm.trans hl)
    exact ⟨h, ho⟩
  · rintro before device after fault rfl hr hd hn
    obtain ⟨place, ht, he⟩ := offers.find_past start index journal hr hn
    obtain ⟨last, hl, ho⟩ := ht.ending_unreadable offers hd
    obtain ⟨h, rfl⟩ := Prod.mk.inj (he.symm.trans hl)
    exact ⟨h, ho⟩
  · intro hr hn
    rw [← List.append_nil devices] at offers
    obtain ⟨place, ht, he⟩ := offers.find_past start index journal hr hn
    obtain ⟨h, hs⟩ := Prod.mk.inj (he.symm.trans ht.ending_exhausted)
    exact ⟨h, hs ▸ ht.untouched⟩
  · intro place hp
    obtain ⟨before, after, rfl, ht⟩ := offers.tallied_of_passes start hp
    refine ⟨offers.recorded.ending_of_passes start index journal hp, ht.found_le, ?_⟩
    rw [ht.index_eq, List.take_left, ht.toNat_found]

/-! ## The least host -/

/-- A host that knows its devices and nothing else. -/
def roster (devices : List Plugged) : Machine Usb Unit
  | .list, state => { reply := .ok (devices.map Plugged.location), state }
  | .descriptor index, state =>
    { reply := (devices[index]?.map Plugged.descriptor).getD (.error .notFound), state }
  | .openDevice index, state =>
    { reply := (devices[index]?.map Plugged.opening).getD (.error .notFound), state }
  | .prepare, state | .detachDriver, state | .claim, state | .release, state =>
    { reply := .ok (), state }
  | .logLevel _, state | .close, state => { reply := (), state }
  | .bulkWrite bytes, state => { reply := .ok bytes.length, state }
  | .bulkRead _, state => { reply := .ok [], state }

theorem offers_roster (devices : List Plugged) :
    Offers (roster devices) (fun _ => True) devices where
  list _ := ⟨rfl, trivial⟩
  descriptor _ hd := ⟨by simp [roster, hd], trivial⟩
  opening _ hd := by simp [roster, hd]

/-- The last number there is, on a bus with a hub and then more adapters than a byte can count: the
wanted one cannot be opened, and behind it stands a device that cannot be read. -/
theorem find_opens_numbered_last :
    let hub : Plugged := ⟨⟨1, 1⟩, .ok ⟨0x1d6b, 0x0002⟩, .ok ()⟩
    let adapter : Plugged := ⟨⟨1, 2⟩, .ok ⟨0x1a86, 0x5512⟩, .ok ()⟩
    let busy : Plugged := ⟨⟨1, 3⟩, .ok ⟨0x1a86, 0x5512⟩, .error .busy⟩
    let lost : Plugged := ⟨⟨1, 4⟩, .error .noDevice, .ok ()⟩
    let before := hub :: List.replicate 255 adapter
    let devices := before ++ busy :: lost :: List.replicate 300 adapter
    let ran := (find (some 255)).run (roster devices).recorded ((), []) []
    adapters devices = 556 ∧ adapters before = 255 ∧ (∀ device ∈ before, device.Readable) ∧
      ran.result = .error (.usb "Resource busy") ∧ opened ran.state.2 = [256] ∧
      ∀ place, ReflTransGen (Passes (roster devices).recorded 255)
        (.first (roster devices).recorded devices ((), [])) place →
          place.ending (roster devices).recorded 255 = (ran.result, ran.state) ∧
            place.found ≤ 255 ∧ place.found.toNat = adapters (devices.take place.index) := by
  intro hub adapter busy lost before devices
  have hl : before.length = 256 := by rw [List.length_cons, List.length_replicate]
  have ha : adapters before = 255 := by
    rw [adapters, List.countP_cons, List.countP_replicate]
    rfl
  have hd : adapters devices = 556 := by
    rw [adapters_append, ha, adapters, List.countP_cons, List.countP_cons, List.countP_replicate]
    rfl
  have hr : ∀ device ∈ before, device.Readable :=
    List.forall_mem_cons.2 ⟨⟨_, rfl⟩, fun device hm => List.eq_of_mem_replicate hm ▸ ⟨_, rfl⟩⟩
  have h := find_opens_numbered (offers_roster devices) () trivial (some 255) []
  -- The run is not to be computed, so it is made a variable.
  generalize (find (some 255)).run (roster devices).recorded ((), []) [] = ran at h ⊢
  obtain ⟨hw, -, -, hc⟩ := h
  obtain ⟨hf, ho⟩ := hw before busy (lost :: List.replicate 300 adapter) rfl hr rfl ha
  rw [hl] at ho
  exact ⟨hd, ha, hr, hf, ho, hc⟩

end DiskBridge.Adapter
