import PcRemote.OtaDownload
import PcRemote.Transition

/-! The two slots of the flash, over updates, self-tests and resets. An image that was switched to
runs on trial until it passes the self-test of its boot; reset before that, the device goes back to
the image it last confirmed, which no update overwrites meanwhile. -/
namespace PcRemote.Rollback
open Text Signing OtaUpdate Transition

inductive SlotState
  | fresh
  | pending
  | valid
  | aborted
  deriving DecidableEq, Repr

structure Flash where
  image : Bool → List UInt8
  state : Bool → SlotState
  boot : Bool

def Flash.mark (f : Flash) (slot : Bool) (state : SlotState) : Flash :=
  { f with state := Function.update f.state slot state }

/-- A boot loader with rollback. A slot that was only switched to boots on trial, and one that was
booted on trial and not marked valid since is given up. -/
structure BootLoader where
  start : Flash → Flash × Bool
  start_valid : ∀ f, f.state f.boot = .valid → start f = (f, f.boot)
  start_fresh : ∀ f, f.state f.boot = .fresh → start f = (f.mark f.boot .pending, f.boot)
  start_pending : ∀ f, f.state f.boot = .pending → f.state (!f.boot) = .valid →
    start f = ({ f.mark f.boot .aborted with boot := !f.boot }, !f.boot)

/-- What an event of an update does. The driver writes only the slot that is not running. -/
def Flash.perform (f : Flash) (running : Bool) : OtaEvent → Flash
  | .initiate => { f with image := Function.update f.image (!running) [] }
  | .write chunk =>
      { f with image := Function.update f.image (!running) (f.image (!running) ++ chunk) }
  | .complete true => { f.mark (!running) .fresh with boot := !running }
  | .complete false | .signedGet .. | .progress _ | .applying | .abort => f

structure BootChecks where
  displayOk : Bool
  wifiConnected : Bool
  deriving DecidableEq, Repr

def bootSelfTestPassed (checks : BootChecks) : Bool := checks.displayOk && checks.wifiConnected

/-- The driver may not be had, or may refuse to mark the slot. -/
def markAppValidAfterSelfTest (checks : BootChecks) (driver marked : Except String Unit) :
    Except String Bool := do
  if ¬ bootSelfTestPassed checks then return false
  driver
  marked
  return true

/-- An update under way: what it has done, what is left of it, and how it turns out. -/
structure Update where
  manifest : OtaManifest
  done : List OtaEvent
  rest : List OtaEvent
  result : Except OtaError Unit

/-- The image last confirmed is a record for the reader; nothing depends on it. -/
structure Device where
  flash : Flash
  running : Bool
  displayOk : Bool
  otaValidated : Bool
  update : Option Update
  confirmed : List UInt8

namespace Device

def reset (B : BootLoader) (d : Device) : Device :=
  { d with
    flash := (B.start d.flash).1
    running := (B.start d.flash).2
    displayOk := false
    otaValidated := false
    update := none }

/-- The end of a status check of the main loop. -/
def statusCheck (d : Device) (wifiConnected : Bool) (driver marked : Except String Unit) : Device :=
  if wifiConnected && (!d.otaValidated && d.displayOk) then
    match markAppValidAfterSelfTest ⟨d.displayOk, wifiConnected⟩ driver marked with
    | .ok true =>
        { d with
          flash := d.flash.mark d.running .valid
          otaValidated := true
          confirmed := d.flash.image d.running }
    | .ok false | .error _ => d
  else d

end Device

inductive Event
  | reset
  | drawn
  | statusCheck (wifiConnected : Bool) (driver marked : Except String Unit)
  | update (m : OtaManifest) (slot : Slot) (fetch : Fetch)
  | ota (event : OtaEvent)
  | failed (error : OtaError)
  | restart

section Model
variable (C : Crypto) (B : BootLoader)

/-- A reset can come at any time, also in the middle of an update. The driver does not open the
spare slot while the running one is on trial. -/
inductive Step : Device → Event → Device → Prop
  | reset {d : Device} : Step d .reset (d.reset B)
  | drawn {d : Device} : Step d .drawn { d with displayOk := true }
  | statusCheck {d : Device} {wifiConnected : Bool} {driver marked : Except String Unit}
      (hd : d.displayOk = true) :
      Step d (.statusCheck wifiConnected driver marked) (d.statusCheck wifiConnected driver marked)
  | update {d : Device} {m : OtaManifest} {slot : Slot} {fetch : Fetch} (hu : d.update = none)
      (hslot : slot.initiate = .ok () → d.flash.state d.running ≠ .pending) :
      Step d (.update m slot fetch)
        { d with update := some ⟨m, [], (downloadAndFlash C m slot fetch).1,
            (downloadAndFlash C m slot fetch).2⟩ }
  | ota {d : Device} {u : Update} {event : OtaEvent} {rest : List OtaEvent}
      (hu : d.update = some u) (hrest : u.rest = event :: rest) :
      Step d (.ota event)
        { d with
          flash := d.flash.perform d.running event
          update := some { u with done := u.done ++ [event], rest } }
  | failed {d : Device} {u : Update} {error : OtaError} (hu : d.update = some u)
      (hrest : u.rest = []) (hresult : u.result = .error error) :
      Step d (.failed error) { d with update := none }
  | restart {d : Device} {u : Update} (hu : d.update = some u) (hrest : u.rest = [])
      (hresult : u.result = .ok ()) : Step d .restart (d.reset B)

def device : System Device Event := ⟨Step C B⟩

end Model

section Order
variable {C : Crypto} {m : OtaManifest}

lemma initiate_notMem_received {slot : Slot} {d : Download} {events : List OtaEvent}
    {result : Except OtaError Download} (h : Received slot d events result) :
    .initiate ∉ events := by
  induction h with
  | ended | failed | refused => simp
  | wrote hwrite hreport h ih =>
    rcases hreport with rfl | ⟨received, rfl⟩ <;> simpa using ih

lemma initiate_notMem_activate (slot : Slot) (d : Download) :
    .initiate ∉ (activate C m slot d).1 := by
  unfold activate
  split
  · simp
  · split <;> simp

/-- An update that does anything erases the slot first, and once. -/
lemma downloadAndFlash_initiates (slot : Slot) (fetch : Fetch) :
    (downloadAndFlash C m slot fetch).1 = [] ∨
      slot.initiate = .ok () ∧ ∃ rest, (downloadAndFlash C m slot fetch).1 = .initiate :: rest ∧
        .initiate ∉ rest := by
  unfold downloadAndFlash
  cases slot.initiate with
  | error reason => exact .inl rfl
  | ok =>
    refine .inr ⟨rfl, ?_⟩
    cases fetch.body firmwarePath with
    | error e => exact ⟨_, rfl, by simp⟩
    | ok reads =>
      have hreceived := initiate_notMem_received (received_receive m slot reads .start)
      cases hr : (receive m slot reads .start).2 with
      | error e =>
        simp only [hr]
        exact ⟨_, rfl, by simp [hreceived]⟩
      | ok d =>
        simp only [hr]
        exact ⟨_, rfl, by simp [hreceived, initiate_notMem_activate]⟩

/-- After the switch there is only its notice, and the update succeeds. -/
lemma after_switch {events xs ys : List OtaEvent} {result : Except OtaError Unit}
    (h : Flashed C m events result) (hevents : events = xs ++ .complete true :: ys) :
    ys = [.applying] ∧ result = .ok () := by
  have hmem : OtaEvent.complete true ∈ events := by simp [hevents]
  cases h with
  | refused => simp at hmem
  | aborted error hsilent =>
    rcases List.mem_append.mp hmem with hmem | hmem
    · simpa [OtaEvent.isComplete] using hsilent _ hmem
    · simp at hmem
  | unswitched reason hmatches =>
    rcases List.mem_append.mp hmem with hmem | hmem
    · simpa [OtaEvent.isComplete] using hmatches.silent _ hmem
    · simp at hmem
  | @switched before hmatches =>
    have heq := eq_of_only hevents.symm (rfl : (OtaEvent.complete true).isComplete = true)
      hmatches.silent (by simp [OtaEvent.isComplete])
    subst heq
    simpa [eq_comm] using hevents

end Order

/-! ### The invariant -/

section Invariant
variable (C : Crypto)

/-- The image is the one that the manifest of an update describes. -/
def Described (es : List Event) (image : List UInt8) : Prop :=
  ∃ m slot fetch, .update m slot fetch ∈ es ∧ image.length = m.size.toNat ∧
    hexEncode (C.sha256 image) = m.sha256

/-- Where the update under way comes from. -/
def Begun (es : List Event) (u : Update) : Prop :=
  ∃ slot fetch, .update u.manifest slot fetch ∈ es ∧
    u.done ++ u.rest = (downloadAndFlash C u.manifest slot fetch).1 ∧
    u.result = (downloadAndFlash C u.manifest slot fetch).2

/-- The running image is confirmed, and boots again. -/
structure Stable (es : List Event) (d : Device) : Prop where
  boot : d.flash.boot = d.running
  state : d.flash.state d.running = .valid
  image : d.flash.image d.running = d.confirmed
  update : ∀ u, d.update = some u → Begun C es u ∧
    (u.done = [] ∨ d.flash.image (!d.running) = writtenBytes u.done)

/-- The running image is confirmed, and the other slot boots next. -/
structure Switched (es : List Event) (d : Device) : Prop where
  boot : d.flash.boot = !d.running
  state : d.flash.state d.running = .valid
  image : d.flash.image d.running = d.confirmed
  spare_state : d.flash.state (!d.running) = .fresh
  spare_image : Described C es (d.flash.image (!d.running))
  update : ∃ u, d.update = some u ∧ (u.rest = [.applying] ∨ u.rest = []) ∧ u.result = .ok ()

/-- The running image is on trial, and the confirmed one is in the other slot. -/
structure Trial (es : List Event) (d : Device) : Prop where
  boot : d.flash.boot = d.running
  state : d.flash.state d.running = .pending
  image : Described C es (d.flash.image d.running)
  spare_state : d.flash.state (!d.running) = .valid
  spare_image : d.flash.image (!d.running) = d.confirmed
  untested : d.otaValidated = false
  update : ∀ u, d.update = some u → u.done = [] ∧ u.rest = [] ∧ Begun C es u ∧
    ∃ error, u.result = .error error

/-- What holds in every state reached. -/
structure Inv (initial : List UInt8) (es : List Event) (d : Device) : Prop where
  phase : Stable C es d ∨ Switched C es d ∨ Trial C es d
  confirmed : d.confirmed = initial ∨ Described C es d.confirmed

end Invariant

section Steps
variable {C : Crypto} {B : BootLoader} {es : List Event}

lemma Described.snoc {image : List UInt8} (h : Described C es image) (e : Event) :
    Described C (es ++ [e]) image := by
  obtain ⟨m, slot, fetch, hmem, hsame⟩ := h
  exact ⟨m, slot, fetch, List.mem_append_left _ hmem, hsame⟩

lemma Begun.snoc {u : Update} (h : Begun C es u) (e : Event) : Begun C (es ++ [e]) u := by
  obtain ⟨slot, fetch, hmem, hsame⟩ := h
  exact ⟨slot, fetch, List.mem_append_left _ hmem, hsame⟩

/-- Any reset leads to a confirmed image, or to the trial of the one switched to. -/
lemma reset_phase {d : Device} (h : Stable C es d ∨ Switched C es d ∨ Trial C es d) :
    Stable C es (d.reset B) ∨ Trial C es (d.reset B) := by
  rcases h with h | h | h
  · have hstart := B.start_valid d.flash (by rw [h.boot, h.state])
    refine .inl ⟨?_, ?_, ?_, by simp [Device.reset]⟩
    · simp [Device.reset, hstart]
    · simpa [Device.reset, hstart, h.boot] using h.state
    · simpa [Device.reset, hstart, h.boot] using h.image
  · have hstart := B.start_fresh d.flash (by rw [h.boot, h.spare_state])
    refine .inr ⟨?_, ?_, ?_, ?_, ?_, rfl, by simp [Device.reset]⟩
    · simp [Device.reset, hstart, Flash.mark]
    · simp [Device.reset, hstart, Flash.mark]
    · simpa [Device.reset, hstart, Flash.mark, h.boot] using h.spare_image
    · simpa [Device.reset, hstart, Flash.mark, h.boot] using h.state
    · simpa [Device.reset, hstart, Flash.mark, h.boot] using h.image
  · have hstart := B.start_pending d.flash (by rw [h.boot, h.state])
      (by rw [h.boot, h.spare_state])
    refine .inl ⟨?_, ?_, ?_, by simp [Device.reset]⟩
    · simp [Device.reset, hstart]
    · simpa [Device.reset, hstart, Flash.mark, h.boot] using h.spare_state
    · simpa [Device.reset, hstart, Flash.mark, h.boot] using h.spare_image

/-- A status check confirms the running image, after its self-test, or changes nothing. -/
lemma statusCheck_cases (d : Device) (wifiConnected : Bool) (driver marked : Except String Unit) :
    d.statusCheck wifiConnected driver marked = d ∨
    wifiConnected = true ∧ d.displayOk = true ∧ driver = .ok () ∧ marked = .ok () ∧
      d.statusCheck wifiConnected driver marked =
        { d with
          flash := d.flash.mark d.running .valid
          otaValidated := true
          confirmed := d.flash.image d.running } := by
  unfold Device.statusCheck
  split_ifs with hdue
  · rw [Bool.and_eq_true, Bool.and_eq_true] at hdue
    obtain ⟨hwifi, -, hdisplay⟩ := hdue
    cases driver with
    | error e => exact .inl (by simp [markAppValidAfterSelfTest, bootSelfTestPassed, hwifi,
        hdisplay, bind, Except.bind])
    | ok =>
      cases marked with
      | error e => exact .inl (by simp [markAppValidAfterSelfTest, bootSelfTestPassed, hwifi,
          hdisplay, bind, Except.bind])
      | ok =>
        refine .inr ⟨hwifi, hdisplay, rfl, rfl, ?_⟩
        simp [markAppValidAfterSelfTest, bootSelfTestPassed, hwifi, hdisplay, bind, Except.bind,
          pure, Except.pure]
  · exact .inl rfl

lemma mark_of_state {f : Flash} {slot : Bool} {state : SlotState} (h : f.state slot = state) :
    f.mark slot state = f := by
  simp [Flash.mark, ← h]

/-- Confirming the running image ends its trial, and is nothing new outside of one. -/
lemma confirm_phase {d : Device} (h : Stable C es d ∨ Switched C es d ∨ Trial C es d) :
    let d' : Device := { d with
      flash := d.flash.mark d.running .valid
      otaValidated := true
      confirmed := d.flash.image d.running }
    (Stable C es d' ∨ Switched C es d' ∨ Trial C es d') ∧
      (d'.confirmed = d.confirmed ∨ Described C es d'.confirmed) := by
  rcases h with h | h | h
  · rw [mark_of_state h.state]
    exact ⟨.inl ⟨h.boot, h.state, rfl, h.update⟩, .inl h.image⟩
  · rw [mark_of_state h.state]
    exact ⟨.inr (.inl ⟨h.boot, h.state, rfl, h.spare_state, h.spare_image, h.update⟩), .inl h.image⟩
  · refine ⟨.inl ⟨h.boot, by simp [Flash.mark], rfl, fun u hu => ?_⟩, .inr h.image⟩
    obtain ⟨hdone, -, hbegun, -⟩ := h.update u hu
    exact ⟨hbegun, .inl hdone⟩

lemma update_phase {d : Device} (h : Stable C es d ∨ Switched C es d ∨ Trial C es d)
    (hu : d.update = none) {m : OtaManifest} {slot : Slot} {fetch : Fetch}
    (hslot : slot.initiate = .ok () → d.flash.state d.running ≠ .pending)
    (hmem : .update m slot fetch ∈ es) :
    let d' : Device := { d with
      update := some ⟨m, [], (downloadAndFlash C m slot fetch).1,
        (downloadAndFlash C m slot fetch).2⟩ }
    Stable C es d' ∨ Switched C es d' ∨ Trial C es d' := by
  have hbegun : Begun C es ⟨m, [], (downloadAndFlash C m slot fetch).1,
      (downloadAndFlash C m slot fetch).2⟩ := ⟨slot, fetch, hmem, rfl, rfl⟩
  rcases h with h | h | h
  · refine .inl ⟨h.boot, h.state, h.image, fun u hu' => ?_⟩
    obtain rfl := Option.some.inj hu'
    exact ⟨hbegun, .inl rfl⟩
  · obtain ⟨u, hsome, -⟩ := h.update
    simp [hu] at hsome
  · refine .inr (.inr ⟨h.boot, h.state, h.image, h.spare_state, h.spare_image, h.untested,
      fun u hu' => ?_⟩)
    obtain rfl := Option.some.inj hu'
    cases hinitiate : slot.initiate with
    | ok => exact absurd h.state (hslot hinitiate)
    | error reason =>
      have hrefused : downloadAndFlash C m slot fetch = ([], .error (.ota reason)) := by
        simp [downloadAndFlash, hinitiate]
      exact ⟨rfl, by rw [hrefused], hbegun, .ota reason, by rw [hrefused]⟩

/-- The next event of an update, on a stable device. -/
lemma Stable.perform {d : Device} (h : Stable C es d) {u : Update} {event : OtaEvent}
    {rest : List OtaEvent} (hu : d.update = some u) (hrest : u.rest = event :: rest) :
    let d' : Device := { d with
      flash := d.flash.perform d.running event
      update := some { u with done := u.done ++ [event], rest } }
    Stable C es d' ∨ Switched C es d' := by
  obtain ⟨hbegun, hspare⟩ := h.update u hu
  have hbegun' := hbegun
  obtain ⟨slot, fetch, hmem, hevents, hresult⟩ := hbegun'
  rw [hrest] at hevents
  have hnext : Begun C es { u with done := u.done ++ [event], rest } :=
    ⟨slot, fetch, hmem, by simpa using hevents, hresult⟩
  -- The slot is erased by the first event and by no other.
  have hfirst : (u.done = [] ∧ event = .initiate) ∨
      (event ≠ .initiate ∧ d.flash.image (!d.running) = writtenBytes u.done) := by
    rcases downloadAndFlash_initiates (C := C) (m := u.manifest) slot fetch with
      hnone | ⟨-, tail, hall, hnot⟩
    · simp [hnone] at hevents
    · rw [hall] at hevents
      cases hdone : u.done with
      | nil =>
        rw [hdone, List.nil_append, List.cons.injEq] at hevents
        exact .inl ⟨rfl, hevents.1⟩
      | cons first done =>
        rw [hdone, List.cons_append, List.cons.injEq] at hevents
        refine .inr ⟨?_, hdone ▸ hspare.resolve_left (by simp [hdone])⟩
        rintro rfl
        exact hnot (by simp [← hevents.2])
  have hstable : ∀ flash : Flash, flash.boot = d.flash.boot → flash.state = d.flash.state →
      flash.image d.running = d.flash.image d.running →
      flash.image (!d.running) = writtenBytes (u.done ++ [event]) →
      Stable C es { d with flash, update := some { u with done := u.done ++ [event], rest } } := by
    intro flash hboot hstate himage hwritten
    refine ⟨hboot.trans h.boot, by rw [hstate, h.state], himage.trans h.image, fun u' hu' => ?_⟩
    obtain rfl := Option.some.inj hu'
    exact ⟨hnext, .inr hwritten⟩
  rcases hfirst with ⟨hdone, rfl⟩ | ⟨hne, himage⟩
  · exact .inl (hstable _ rfl rfl (by simp [Flash.perform]) (by simp [Flash.perform, hdone,
      writtenBytes]))
  · cases event with
    | initiate => exact absurd rfl hne
    | write chunk =>
      exact .inl (hstable _ rfl rfl (by simp [Flash.perform]) (by simp [Flash.perform, himage]))
    | complete switched =>
      cases switched with
      | false => exact .inl (hstable _ rfl rfl rfl (by simp [himage, writtenBytes, Flash.perform]))
      | true =>
        have hflashed := flashed_downloadAndFlash (C := C) (m := u.manifest) slot fetch
        have hmatches := hflashed.matches hevents.symm
        obtain ⟨rfl, hok⟩ := after_switch hflashed hevents.symm
        refine .inr ⟨rfl, ?_, h.image, ?_, ?_, _, rfl, .inl rfl, hresult.trans hok⟩
        · simpa [Flash.perform, Flash.mark] using h.state
        · simp [Flash.perform, Flash.mark]
        · refine ⟨u.manifest, slot, fetch, hmem, ?_, ?_⟩
          · simpa [Flash.perform, Flash.mark, himage] using hmatches.length
          · simpa [Flash.perform, Flash.mark, himage] using hmatches.sha256
    | signedGet | progress | applying | abort =>
      exact .inl (hstable _ rfl rfl rfl (by simp [himage, writtenBytes, Flash.perform]))

/-- What is left of an update that switched does not touch the flash. -/
lemma Switched.perform {d : Device} (h : Switched C es d) {u : Update} {event : OtaEvent}
    {rest : List OtaEvent} (hu : d.update = some u) (hrest : u.rest = event :: rest) :
    Switched C es { d with
      flash := d.flash.perform d.running event
      update := some { u with done := u.done ++ [event], rest } } := by
  obtain ⟨u', hu', hleft, hresult⟩ := h.update
  obtain rfl : u = u' := Option.some.inj (hu.symm.trans hu')
  rw [hrest] at hleft
  obtain ⟨rfl, rfl⟩ : event = .applying ∧ rest = [] := by simpa using hleft
  exact ⟨h.boot, h.state, h.image, h.spare_state, h.spare_image, _, rfl, .inr rfl, hresult⟩

lemma phase_snoc {d : Device} (h : Stable C es d ∨ Switched C es d ∨ Trial C es d) (e : Event) :
    Stable C (es ++ [e]) d ∨ Switched C (es ++ [e]) d ∨ Trial C (es ++ [e]) d := by
  rcases h with h | h | h
  · refine .inl ⟨h.boot, h.state, h.image, fun u hu => ?_⟩
    exact ⟨(h.update u hu).1.snoc e, (h.update u hu).2⟩
  · exact .inr (.inl ⟨h.boot, h.state, h.image, h.spare_state, h.spare_image.snoc e, h.update⟩)
  · refine .inr (.inr ⟨h.boot, h.state, h.image.snoc e, h.spare_state, h.spare_image, h.untested,
      fun u hu => ?_⟩)
    obtain ⟨hdone, hrest, hbegun, herror⟩ := h.update u hu
    exact ⟨hdone, hrest, hbegun.snoc e, herror⟩

/-- Every step keeps the invariant. -/
lemma Inv.step {initial : List UInt8} {d d' : Device} {e : Event} (h : Inv C initial es d)
    (hst : Step C B d e d') : Inv C initial (es ++ [e]) d' := by
  have hphase := phase_snoc h.phase e
  have hconfirmed : d.confirmed = initial ∨ Described C (es ++ [e]) d.confirmed :=
    h.confirmed.imp_right fun hd => hd.snoc e
  cases hst with
  | reset => exact ⟨(reset_phase hphase).imp_right .inr, hconfirmed⟩
  | restart => exact ⟨(reset_phase hphase).imp_right .inr, hconfirmed⟩
  | drawn =>
    refine ⟨?_, hconfirmed⟩
    rcases hphase with h | h | h
    · exact .inl ⟨h.boot, h.state, h.image, h.update⟩
    · exact .inr (.inl ⟨h.boot, h.state, h.image, h.spare_state, h.spare_image, h.update⟩)
    · exact .inr (.inr ⟨h.boot, h.state, h.image, h.spare_state, h.spare_image, h.untested,
        h.update⟩)
  | @statusCheck wifiConnected driver marked hd =>
    rcases statusCheck_cases d wifiConnected driver marked with heq | ⟨-, -, -, -, heq⟩
    · exact heq.symm ▸ ⟨hphase, hconfirmed⟩
    · obtain ⟨hphase', hnew⟩ := confirm_phase hphase
      rw [heq]
      refine ⟨hphase', ?_⟩
      rcases hnew with hsame | hdescribed
      · exact hsame.symm ▸ hconfirmed
      · exact .inr hdescribed
  | update hu hslot => exact ⟨update_phase hphase hu hslot (by simp), hconfirmed⟩
  | @ota u event rest hu hrest =>
    refine ⟨?_, hconfirmed⟩
    rcases hphase with h | h | h
    · rcases h.perform hu hrest with h | h
      · exact .inl h
      · exact .inr (.inl h)
    · exact .inr (.inl (h.perform hu hrest))
    · obtain ⟨-, hnone, -⟩ := h.update u hu
      simp [hrest] at hnone
  | @failed u error hu hrest hresult =>
    refine ⟨?_, hconfirmed⟩
    rcases hphase with h | h | h
    · exact .inl ⟨h.boot, h.state, h.image, by simp⟩
    · obtain ⟨u', hu', -, hok⟩ := h.update
      obtain rfl : u = u' := Option.some.inj (hu.symm.trans hu')
      simp [hresult] at hok
    · exact .inr (.inr ⟨h.boot, h.state, h.image, h.spare_state, h.spare_image, h.untested,
        by simp⟩)

end Steps

/-- A device that runs a confirmed image and is about to start its program. -/
structure Started (d : Device) : Prop where
  boot : d.flash.boot = d.running
  state : d.flash.state d.running = .valid
  confirmed : d.confirmed = d.flash.image d.running
  displayOk : d.displayOk = false
  update : d.update = none

section Run
variable {C : Crypto} {B : BootLoader} {d₀ d : Device} {es : List Event}

lemma inv_run (h₀ : Started d₀) (h : (device C B).Run d₀ es d) : Inv C d₀.confirmed es d := by
  refine h.history (fun es s e t hst hJ => hJ.step hst) ⟨.inl ?_, .inl rfl⟩
  exact ⟨h₀.boot, h₀.state, h₀.confirmed.symm, by simp [h₀.update]⟩

/-- The display was set up after the last reset. -/
def DrawnSinceReset (es : List Event) : Prop :=
  ∃ before after, es = before ++ .drawn :: after ∧ .reset ∉ after ∧ .restart ∉ after

lemma DrawnSinceReset.snoc (h : DrawnSinceReset es) {e : Event} (hreset : .reset ≠ e)
    (hrestart : .restart ≠ e) : DrawnSinceReset (es ++ [e]) := by
  obtain ⟨before, after, rfl, hno, hno'⟩ := h
  exact ⟨before, after ++ [e], by simp, by simp [hno, hreset], by simp [hno', hrestart]⟩

lemma drawn_run (h₀ : Started d₀) (h : (device C B).Run d₀ es d) :
    d.displayOk = true → DrawnSinceReset es := by
  refine h.history (J := fun es d => d.displayOk = true → DrawnSinceReset es) ?_
    (by simp [h₀.displayOk])
  intro es s e t hst hJ hdisplay
  cases hst with
  | reset | restart => simp [Device.reset] at hdisplay
  | drawn => exact ⟨es, [], rfl, by simp, by simp⟩
  | statusCheck hd => exact (hJ hd).snoc (by simp) (by simp)
  | update | ota | failed => exact (hJ hdisplay).snoc (by simp) (by simp)

/-- What the device runs, and what it falls back on. -/
structure Guarded (C : Crypto) (B : BootLoader) (initial : List UInt8) (es : List Event)
    (d : Device) : Prop where
  fallback : ∃ slot, d.flash.state slot = .valid ∧ d.flash.image slot = d.confirmed
  runs : d.flash.image d.running = d.confirmed ∨
    d.flash.state d.running = .pending ∧ Described C es (d.flash.image d.running)
  trial : d.flash.state d.running = .pending →
    (d.reset B).flash.image (d.reset B).running = d.confirmed ∧
      (d.reset B).flash.state (d.reset B).running = .valid
  known : d.confirmed = initial ∨ Described C es d.confirmed

/-- A boot loader that gives up what it cannot trust. -/
def rollbackLoader : BootLoader where
  start f :=
    match f.state f.boot with
    | .valid => (f, f.boot)
    | .fresh => (f.mark f.boot .pending, f.boot)
    | .pending => ({ f.mark f.boot .aborted with boot := !f.boot }, !f.boot)
    | .aborted => ({ f with boot := !f.boot }, !f.boot)
  start_valid f h := by simp [h]
  start_fresh f h := by simp [h]
  start_pending f h _ := by simp [h]

def shippedDevice : Device where
  flash := ⟨fun _ => [0xe9], fun slot => if slot then .aborted else .valid, false⟩
  running := false
  displayOk := false
  otaValidated := false
  update := none
  confirmed := [0xe9]

/-- A slot with room for a few bytes. -/
def smallSlot : Slot where
  size := 16
  initiate := .ok ()
  write written chunk :=
    if written.length + chunk.length ≤ 16 then .ok () else .error "out of space"
  complete := .ok ()
  write_bounded written chunk h := by
    simp only [ite_eq_left_iff, reduceCtorEq, imp_false, not_not] at h
    exact h

def newImage : List UInt8 := [0xe9, 1, 2]

def newManifest : OtaManifest :=
  ⟨"0.18.0", 3, hexEncode (Crypto.standard.sha256 newImage), "", ""⟩

def newFetch : Fetch := .response 200 [.bytes newImage]

def installing : List OtaEvent :=
  [.initiate, .signedGet firmwarePath newFetch, .write newImage, .progress 3, .progress 3,
    .complete true, .applying]

lemma downloadAndFlash_new :
    downloadAndFlash .standard newManifest smallSlot newFetch = (installing, .ok ()) := by
  have hreceived : receive newManifest smallSlot [.bytes newImage] .start =
      ([.write newImage, .progress 3], .ok ⟨newImage, newImage, 3, 100⟩) := by
    have hsize : newManifest.size = 3 := rfl
    simp [receive, hsize, smallSlot, Download.start, Download.take, Download.due, newImage,
      ConfigValidation.otaReceivedTooLarge, OtaManifest.otaProgressPercent,
      OtaManifest.otaProgressStepPercent]
  have hverify : OtaManifest.verifyOtaImage newManifest 3
      (hexEncode (Crypto.standard.sha256 newImage)) = .ok () := by
    simp [OtaManifest.verifyOtaImage, newManifest]
  have hactivate : activate .standard newManifest smallSlot ⟨newImage, newImage, 3, 100⟩ =
      ([.complete true, .applying], .ok ()) := by
    simp only [activate, hverify]
    rfl
  have hinitiate : smallSlot.initiate = .ok () := rfl
  simp only [downloadAndFlash, newFetch, Fetch.body, if_true, hinitiate, hreceived, hactivate]
  rfl

end Run

end PcRemote.Rollback
