import HydraSdr.Analysis.OperationFeeds
import HydraSdr.Analysis.SerialParsing
import HydraSdr.Program.Opening

/-!
# Listing, selecting and asking for a device

`Device::list` shows descriptors, the builder selects by serial number, and in a browser the user
is first asked to grant access.  The three go through different functions of `discovery.rs`; here
they are shown to mean the same devices (`discovery_agrees`).
-/

set_option autoImplicit false

namespace HydraSdr.Analysis.DiscoveryAgreement

open HydraSdr.Program HydraSdr.Computation HydraSdr.Analysis Resumption

/-! ## Listing and selecting -/

/-- A descriptor is one that was asked for. -/
def wants (serial : Option UInt64) (descriptor : DeviceDescriptor) : Bool :=
  serial.all fun wanted => descriptor.serial = wanted

/-- A device matches exactly when it is listed, as one that was asked for. -/
theorem matchesDevice_eq (info : UsbDeviceInfo) (serial : Option UInt64) :
    matchesDevice info serial = (DeviceDescriptor.fromNusb info).any (wants serial) := by
  unfold matchesDevice DeviceDescriptor.fromNusb
  cases findUsbDeviceId info.vendorId info.productId with
  | none => rfl
  | some deviceId => cases serial <;> rfl

/-- The first device that matches is the first descriptor that was asked for. -/
theorem find_listed (serial : Option UInt64) (devices : List UsbDeviceInfo) :
    (devices.find? (matchesDevice · serial)).bind DeviceDescriptor.fromNusb =
      (listed devices).find? (wants serial) := by
  induction devices with
  | nil => rfl
  | cons device devices ih =>
    unfold listed at ih ⊢
    rw [List.find?_cons, List.filterMap_cons, matchesDevice_eq]
    cases hdescriptor : DeviceDescriptor.fromNusb device with
    | none => simpa using ih
    | some descriptor =>
      cases hwants : wants serial descriptor with
      | false => simpa [hwants] using ih
      | true => simp [hwants, hdescriptor]

/-- The device that is selected is the first one listed that was asked for. -/
theorem selected_descriptor (serial : Option UInt64) (devices : List UsbDeviceInfo) :
    (selected serial devices).toOption.bind DeviceDescriptor.fromNusb =
      (listed devices).find? (wants serial) := by
  rw [← find_listed]
  unfold selected
  cases devices.find? (matchesDevice · serial) <;> rfl

/-- Nothing is selected exactly when none of the devices listed was asked for. -/
theorem selected_error (serial : Option UInt64) (devices : List UsbDeviceInfo) (e : Error) :
    selected serial devices = .error e ↔
      e = .deviceNotFound ∧ ∀ descriptor ∈ listed devices, wants serial descriptor = false := by
  have hfind : devices.find? (matchesDevice · serial) = none ↔
      ∀ descriptor ∈ listed devices, wants serial descriptor = false := by
    rw [List.find?_eq_none]
    unfold listed
    simp only [List.mem_filterMap, matchesDevice_eq]
    constructor
    · rintro h descriptor ⟨device, hdevice, hdescriptor⟩
      simpa [hdescriptor] using h device hdevice
    · intro h device hdevice
      cases hdescriptor : DeviceDescriptor.fromNusb device with
      | none => simp
      | some descriptor => simp [h descriptor ⟨device, hdevice, hdescriptor⟩]
  rw [← hfind]
  unfold selected
  cases devices.find? (matchesDevice · serial) with
  | none => simp [eq_comm]
  | some device => simp

/-! ## Permission in a browser -/

/-- A browser offers the devices that a selector admits. -/
def Admits (selector : UsbSelector) (info : UsbDeviceInfo) : Prop :=
  info.vendorId = selector.vid ∧ info.productId = selector.pid ∧
    ∀ text, selector.serialNumber = some text → info.serialNumber = some text

theorem findUsbDeviceId_known {deviceId : UsbDeviceId} (h : deviceId ∈ USB_DEVICE_IDS) :
    (findUsbDeviceId deviceId.vid deviceId.pid).isSome := by
  unfold findUsbDeviceId
  rw [List.find?_isSome]
  exact ⟨deviceId, h, by simp⟩

theorem normalizedSerial_selector (serial : UInt64) :
    normalizedSerial (some (selectorSerial serial)) = serial := by
  show ((some (selectorSerial serial)).bind parseHydrasdrSerial).getD 0 = serial
  rw [Option.bind_some, (SerialParsing.parse_iff _ _).mpr (SerialParsing.selectorSerial_isSerial serial)]
  rfl

/-- What the selectors admit is what was asked for, except that none of them can ask for a device
without a serial number: where zero was asked for, they admit devices with any. -/
theorem matches_admitted {serial : Option UInt64} {selector : UsbSelector}
    (hselector : selector ∈ selectors serial) {info : UsbDeviceInfo} (h : Admits selector info) :
    matchesDevice info serial = true ↔
      (serial = some 0 → normalizedSerial info.serialNumber = 0) := by
  obtain ⟨deviceId, hknown, rfl⟩ := List.mem_map.mp hselector
  obtain ⟨hvid, hpid, htext⟩ := h
  have hfound := findUsbDeviceId_known hknown
  unfold matchesDevice
  rw [hvid, hpid, hfound, Bool.true_and]
  cases serial with
  | none => simp
  | some wanted =>
    dsimp only
    rw [decide_eq_true_eq]
    by_cases hzero : wanted = 0
    · rw [hzero]
      exact ⟨fun hsame _ => hsame, fun hsame => hsame rfl⟩
    · have htext' := htext (selectorSerial wanted) (by simp [Option.filter, hzero])
      rw [htext', normalizedSerial_selector]
      exact ⟨fun _ hsome => absurd (Option.some.inj hsome) hzero, fun _ => rfl⟩

/-- The outcome of a request for permission.  The browser is asked only when nothing that it has
granted already will do. -/
theorem feed_permission {σ : Type} {port : Port UsbRequest UsbRequest.Reply σ} {serial : Option UInt64}
    {listing asking : (request : UsbRequest) → request.Reply} {devices : List UsbDeviceInfo}
    {answer : Option UsbDeviceInfo} (hlisted : listing .listDevices = .ok devices)
    (hasked : asking (.requestDevice (selectors serial)) = .ok answer)
    (rest : Supply UsbRequest UsbRequest.Reply) (s : σ) :
    (feedOperation port (requestDevicePermission serial) (listing :: asking :: rest) s).1.map
        Prod.fst =
      some (if devices.any (matchesDevice · serial) || answer.any (matchesDevice · serial) then .ok ()
        else .error .deviceNotFound) := by
  unfold requestDevicePermission
  simp only [feed_andThen, feed_map, feed_leaf_cons, onFed_some, hlisted]
  show Option.map Prod.fst (tryFed (some (.ok devices, asking :: rest), _) _).1 = _
  rw [tryFed_ok]
  by_cases hany : devices.any (matchesDevice · serial) = true
  · rw [if_pos hany, hany]
    rfl
  · simp only [hany, Bool.false_eq_true, if_false, feed_map, feed_leaf_cons, onFed_some, hasked]
    show some (granted serial answer) = _
    unfold granted
    cases answer with
    | none => rfl
    | some device => by_cases hdevice : matchesDevice device serial = true <;> simp [Option.filter, hdevice]

/-- **Listing, selecting and permission agree.**  Whatever the host lists, the device that the
builder selects has the first descriptor of the listing with the serial number asked for, and it
selects none exactly when no descriptor of the listing has it.  A request for permission succeeds
exactly when such a device has been granted before or the browser grants one that its selectors
admit, and is refused otherwise; a device granted so is one that can be selected from any later
listing.  Where zero is asked for, the selectors name no serial number, and what the browser grants
will do only if its own is absent, not valid or zero. -/
theorem discovery_agrees (serial : Option UInt64) :
    (∀ devices, (selected serial devices).toOption.bind DeviceDescriptor.fromNusb =
      (listed devices).find? (wants serial)) ∧
    (∀ devices e, selected serial devices = .error e ↔
      e = .deviceNotFound ∧ ∀ descriptor ∈ listed devices, wants serial descriptor = false) ∧
    ∀ {σ : Type} (port : Port UsbRequest UsbRequest.Reply σ) (s : σ)
        (listing asking : (request : UsbRequest) → request.Reply) rest devices answer,
      listing .listDevices = .ok devices →
      asking (.requestDevice (selectors serial)) = .ok answer →
      (∀ device, answer = some device → ∃ selector ∈ selectors serial, Admits selector device) →
      (∃ result, (feedOperation port (requestDevicePermission serial) (listing :: asking :: rest)
          s).1.map Prod.fst = some result ∧
        (result = .ok () ↔ (∃ descriptor ∈ listed devices, wants serial descriptor = true) ∨
          ∃ device, answer = some device ∧
            (serial = some 0 → normalizedSerial device.serialNumber = 0)) ∧
        (result ≠ .ok () → result = .error .deviceNotFound)) ∧
      ∀ device later, answer = some device →
        (serial = some 0 → normalizedSerial device.serialNumber = 0) → device ∈ later →
        ∃ found, selected serial later = .ok found := by
  refine ⟨selected_descriptor serial, selected_error serial, ?_⟩
  intro σ port s listing asking rest devices answer hlisted hasked hadmits
  have hmatches : ∀ device, answer = some device → (matchesDevice device serial = true ↔
      (serial = some 0 → normalizedSerial device.serialNumber = 0)) := by
    intro device hgranted
    obtain ⟨selector, hselector, hadmitted⟩ := hadmits device hgranted
    exact matches_admitted hselector hadmitted
  have hanswer : answer.any (matchesDevice · serial) = true ↔ ∃ device, answer = some device ∧
      (serial = some 0 → normalizedSerial device.serialNumber = 0) := by
    rw [Option.any_eq_true]
    exact exists_congr fun device => and_congr_right (hmatches device)
  have hlistedAny : devices.any (matchesDevice · serial) = true ↔
      ∃ descriptor ∈ listed devices, wants serial descriptor = true := by
    unfold listed
    simp only [List.any_eq_true, List.mem_filterMap, matchesDevice_eq, Option.any_eq_true]
    constructor
    · rintro ⟨device, hdevice, descriptor, hdescriptor, hwants⟩
      exact ⟨descriptor, ⟨device, hdevice, hdescriptor⟩, hwants⟩
    · rintro ⟨descriptor, ⟨device, hdevice, hdescriptor⟩, hwants⟩
      exact ⟨device, hdevice, descriptor, hdescriptor, hwants⟩
  constructor
  · refine ⟨_, feed_permission hlisted hasked rest s, ?_⟩
    rw [← hanswer, ← hlistedAny, ← Bool.or_eq_true]
    by_cases hany : (devices.any (matchesDevice · serial) || answer.any (matchesDevice · serial)) = true
    · simp [hany]
    · simp [hany]
  · intro device later hgranted hserial hlater
    have hmatched := (hmatches device hgranted).mpr hserial
    cases hselected : selected serial later with
    | ok found => exact ⟨found, rfl⟩
    | error e =>
      obtain ⟨_, hnone⟩ := (selected_error serial later e).mp hselected
      rw [matchesDevice_eq, Option.any_eq_true] at hmatched
      obtain ⟨descriptor, hdescriptor, hwants⟩ := hmatched
      have hmem := hnone descriptor (List.mem_filterMap.mpr ⟨device, hlater, hdescriptor⟩)
      exact absurd (hmem.symm.trans hwants) Bool.false_ne_true

end HydraSdr.Analysis.DiscoveryAgreement
