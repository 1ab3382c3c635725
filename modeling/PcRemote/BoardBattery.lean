import PcRemote.BoardLoop

/-! The battery that the main loop shows. The latch of the plug is cleared only after the battery
was sampled, so a plug that comes or goes is missed only where that falls between the two, and what
is shown was sampled less than ten seconds before each look at the latch. -/
namespace PcRemote.Board
open Transactions Transition Transition.System

section Battery
variable {Volts : Type} {batteryPercent : Volts → Bool → Bool → ℕ} {s s' : Vars}
  {trace rest : Trace Volts}

def samples (e : Entry (Answer Volts)) : Bool :=
  match e.request with
  | .batteryVoltage => true
  | _ => false

def looks (e : Entry (Answer Volts)) : Bool :=
  match e.request with
  | .writeRead reg => reg == 0x44
  | _ => false

/-- Just after the clock said t there is a part of a kind, and no entry of it since. -/
def LastAt (kind : Entry (Answer Volts) → Bool) (Part : Trace Volts → Prop) (trace : Trace Volts)
    (t : ℕ) : Prop :=
  ∃ pre part post, trace = pre ++ ⟨.now, t⟩ :: (part ++ post) ∧ Part part ∧
    ∀ e ∈ post, kind e = false

lemma LastAt.append {kind : Entry (Answer Volts) → Bool} {Part : Trace Volts → Prop} {t : ℕ}
    (h : LastAt kind Part trace t) (hrest : ∀ e ∈ rest, kind e = false) :
    LastAt kind Part (trace ++ rest) t := by
  obtain ⟨pre, part, post, rfl, hpart, hpost⟩ := h
  exact ⟨pre, part, post ++ rest, by simp, hpart, List.forall_mem_append.mpr ⟨hpost, hrest⟩⟩

lemma LastAt.prepend {kind : Entry (Answer Volts) → Bool} {Part : Trace Volts → Prop} {t : ℕ}
    (h : LastAt kind Part rest t) (trace : Trace Volts) : LastAt kind Part (trace ++ rest) t := by
  obtain ⟨pre, part, post, rfl, hpart, hpost⟩ := h
  exact ⟨trace ++ pre, part, post, by simp, hpart, hpost⟩

/-- The battery was sampled just after the clock said t, and not since. -/
def SampledAt (batteryPercent : Volts → Bool → Bool → ℕ) (trace : Trace Volts) (t : ℕ)
    (battery : Option Battery) : Prop :=
  LastAt samples (fun sample => Sample batteryPercent sample battery) trace t

/-- The latches were looked at just after the clock said t, and not since. -/
def LookedAt (trace : Trace Volts) (t : ℕ) (pending : Option Bool) : Prop :=
  LastAt looks (fun look => Look look pending) trace t

def writes (e : Entry (Answer Volts)) : Bool :=
  match e.request with
  | .write _ _ => true
  | _ => false

lemma ofLight_of_ofApply {r : Request} (h : ofApply r) : ofLight r := .inr (.inr (.inr (.inr h)))

/-- The light neither samples the battery nor looks at the latches nor writes to them. -/
lemma plain_of_ofLight {e : Entry (Answer Volts)} (h : ofLight e.request) :
    samples e = false ∧ looks e = false ∧ writes e = false := by
  obtain ⟨r, x⟩ := e
  cases r with
  | now | brightnessPercent | touchDown | set => exact ⟨rfl, rfl, rfl⟩
  | _ => rcases h with h | h | h | h | h <;> cases h

lemma Look.plain {pending : Option Bool} (h : Look trace pending) :
    ∀ e ∈ trace, samples e = false ∧ writes e = false := by
  cases h <;> simp [samples, writes]

lemma Sample.plain {battery : Option Battery} (h : Sample batteryPercent trace battery) :
    ∀ e ∈ trace, looks e = false ∧ writes e = false := by
  cases h <;> simp [looks, writes]

lemma Clear.plain (h : Clear trace) :
    ∀ e ∈ trace, samples e = false ∧ looks e = false := by
  cases h <;> simp [samples, looks]

lemma LookedAt.exists_looks {t : ℕ} {pending : Option Bool} (h : LookedAt trace t pending) :
    ∃ e ∈ trace, looks e = true := by
  obtain ⟨pre, look, post, rfl, hlook, -⟩ := h
  have hhead : ∃ status after, look = ⟨.writeRead 0x44, status⟩ :: after := by
    cases hlook with
    | first | second | both => exact ⟨_, _, rfl⟩
  obtain ⟨status, after, rfl⟩ := hhead
  exact ⟨⟨.writeRead 0x44, status⟩, by simp, rfl⟩

/-- What an iteration does after the battery part is no business of the battery. -/
lemma iterate_battery (hruns : (iterate batteryPercent s).Runs trace s') :
    ∃ battery s₁ light, trace = battery ++ light ∧ BatteryStep batteryPercent s battery s₁ ∧
      (∀ e ∈ light, ofLight e.request) ∧ s'.battery = s₁.battery ∧ s'.batteryAt = s₁.batteryAt ∧
      s'.batteryFastAt = s₁.batteryFastAt := by
  obtain ⟨battery, s₁, brightness, s₂, down, t, light, rfl, hbattery, hbrightness, hlight⟩ :=
    iterate_runs batteryPercent hruns
  have hbrightness' : s₂.battery = s₁.battery ∧ s₂.batteryAt = s₁.batteryAt ∧
      s₂.batteryFastAt = s₁.batteryFastAt := by
    cases hbrightness <;> exact ⟨rfl, rfl, rfl⟩
  have hlight' : s'.battery = s₂.battery ∧ s'.batteryAt = s₂.batteryAt ∧
      s'.batteryFastAt = s₂.batteryFastAt := by
    cases hlight <;> exact ⟨rfl, rfl, rfl⟩
  refine ⟨battery, s₁, brightness ++ ⟨.touchDown, down⟩ :: ⟨.now, t⟩ :: light,
    List.append_assoc .., hbattery, ?_, hlight'.1.trans hbrightness'.1,
    hlight'.2.1.trans hbrightness'.2.1, hlight'.2.2.trans hbrightness'.2.2⟩
  simp only [List.forall_mem_append, List.forall_mem_cons]
  refine ⟨fun e he => ?_, .inr (.inr (.inl rfl)), .inl rfl, fun e he => ?_⟩
  · exact (hbrightness.requests e he).elim (fun h => .inr (.inl h)) ofLight_of_ofApply
  · rcases hlight.requests e he with h | h | ⟨-, h⟩
    · exact .inl h
    · exact ofLight_of_ofApply h
    · exact .inr (.inr (.inr (.inl h)))

/-- What the loop knows of the battery is what was sampled last, and when. -/
structure Shown (batteryPercent : Volts → Bool → Bool → ℕ) (s₁ s : Vars) (trace : Trace Volts) :
    Prop where
  battery : SampledAt batteryPercent trace s.batteryAt s.battery ∨
    s.batteryAt = s₁.batteryAt ∧ s.battery = none ∧ ∀ e ∈ trace, samples e = false
  look : (∃ pending, LookedAt trace s.batteryFastAt pending) ∨
    s.batteryFastAt = s₁.batteryFastAt ∧ ∀ e ∈ trace, looks e = false

lemma Shown.append {s₁ : Vars} (h : Shown batteryPercent s₁ s trace)
    (hrest : ∀ e ∈ rest, samples e = false ∧ looks e = false) :
    Shown batteryPercent s₁ s (trace ++ rest) := by
  have hsamples : ∀ e ∈ rest, samples e = false := fun e he => (hrest e he).1
  have hlooks : ∀ e ∈ rest, looks e = false := fun e he => (hrest e he).2
  constructor
  · rcases h.battery with hsampled | ⟨hat, hnone, hnever⟩
    · exact .inl (hsampled.append hsamples)
    · exact .inr ⟨hat, hnone, List.forall_mem_append.mpr ⟨hnever, hsamples⟩⟩
  · rcases h.look with ⟨pending, hlooked⟩ | ⟨hat, hnever⟩
    · exact .inl ⟨pending, hlooked.append hlooks⟩
    · exact .inr ⟨hat, List.forall_mem_append.mpr ⟨hnever, hlooks⟩⟩

/-- The parts of an iteration that looks at the latches. -/
lemma lookedAt_battery {t fast : ℕ} {look tail : Trace Volts} {pending : Option Bool}
    (hlook : Look look pending) (htail : ∀ e ∈ tail, looks e = false) :
    LookedAt ([⟨.now, t⟩, ⟨.now, fast⟩] ++ look ++ tail) fast pending :=
  ⟨[⟨.now, t⟩], look, tail, by simp, hlook, htail⟩

lemma sampledAt_battery {t fast elapsed readAt : ℕ} {look sample tail : Trace Volts}
    {battery : Option Battery} (hsample : Sample batteryPercent sample battery)
    (htail : ∀ e ∈ tail, samples e = false) :
    SampledAt batteryPercent ([⟨.now, t⟩, ⟨.now, fast⟩] ++ look ++
      [⟨.now, elapsed⟩, ⟨.now, readAt⟩] ++ sample ++ tail) readAt battery :=
  ⟨[⟨.now, t⟩, ⟨.now, fast⟩] ++ look ++ [⟨.now, elapsed⟩], sample, tail, by simp, hsample, htail⟩

lemma Shown.battery_step {s₁ : Vars} (h : Shown batteryPercent s₁ s trace)
    (hs : BatteryStep batteryPercent s rest s') : Shown batteryPercent s₁ s' (trace ++ rest) := by
  cases hs with
  | early t => exact h.append (by simp [samples, looks])
  | @quiet t _ fast elapsed look pending hlook =>
    have hnone : ∀ e ∈ [⟨.now, t⟩, ⟨.now, fast⟩] ++ look ++ [⟨.now, elapsed⟩],
        samples e = false := by
      simp only [List.forall_mem_append, List.forall_mem_cons]
      exact ⟨⟨⟨rfl, rfl, nofun⟩, fun e he => (hlook.plain e he).1⟩, rfl, nofun⟩
    refine ⟨?_, .inl ⟨pending, (lookedAt_battery hlook ?_).prepend trace⟩⟩
    · rcases h.battery with hsampled | ⟨hat, hbattery, hnever⟩
      · exact .inl (hsampled.append hnone)
      · exact .inr ⟨hat, hbattery, List.forall_mem_append.mpr ⟨hnever, hnone⟩⟩
    · simp [looks]
  | @read t _ fast elapsed readAt look sample clear pending battery hlook _ hsample hclear =>
    constructor
    · exact .inl ((sampledAt_battery hsample fun e he => (hclear.plain e he).1).prepend trace)
    · rw [List.append_assoc, List.append_assoc]
      refine .inl ⟨pending, (lookedAt_battery hlook ?_).prepend trace⟩
      simp only [List.forall_mem_append, List.forall_mem_cons]
      exact ⟨⟨rfl, rfl, nofun⟩, fun e he => (hsample.plain e he).1,
        fun e he => (hclear.plain e he).2⟩

lemma Shown.iterate {s₁ : Vars} (h : Shown batteryPercent s₁ s trace)
    (hruns : (iterate batteryPercent s).Runs rest s') :
    Shown batteryPercent s₁ s' (trace ++ rest) := by
  obtain ⟨battery, s₂, light, rfl, hbattery, hlight, hsame, hat, hfast⟩ := iterate_battery hruns
  have hnext := (h.battery_step hbattery).append fun e he =>
    ⟨(plain_of_ofLight (hlight e he)).1, (plain_of_ofLight (hlight e he)).2.1⟩
  rw [← List.append_assoc]
  exact ⟨hsame ▸ hat ▸ hnext.battery, hfast ▸ hnext.look⟩

lemma shouldRead_eq_false {pending : Bool} {elapsed : ℕ} :
    shouldRead pending elapsed = false ↔ pending = false ∧ elapsed < fullReadInterval := by
  simp [shouldRead]

/-- An iteration looks at the latches once a second has passed since the last look. If they hold
something, or cannot be read, it samples the battery, and whatever they hold, the battery was then
sampled less than ten seconds before. -/
lemma iterate_looks (hruns : (iterate batteryPercent s).Runs trace s') : ∃ (t : ℕ) (rest : _),
    trace = ⟨.now, t⟩ :: rest ∧
    (t - s.batteryFastAt < batteryPollInterval → s'.battery = s.battery ∧
      ∀ e ∈ trace, samples e = false ∧ looks e = false ∧ writes e = false) ∧
    (batteryPollInterval ≤ t - s.batteryFastAt → ∃ pending,
      LookedAt trace s'.batteryFastAt pending ∧
      (pending ≠ some false → SampledAt batteryPercent trace s'.batteryAt s'.battery) ∧
      (Clocked trace → t < s'.batteryAt + fullReadInterval)) := by
  obtain ⟨battery, s₂, light, rfl, hbattery, hlight, hsame, hat, hfast⟩ := iterate_battery hruns
  have hsamples : ∀ e ∈ light, samples e = false := fun e he => (plain_of_ofLight (hlight e he)).1
  have hlooks : ∀ e ∈ light, looks e = false := fun e he => (plain_of_ofLight (hlight e he)).2.1
  cases hbattery with
  | early t hearly =>
    refine ⟨t, light, rfl, fun _ => ⟨hsame, ?_⟩, fun hdue => absurd hdue (not_le.mpr hearly)⟩
    exact List.forall_mem_cons.mpr ⟨⟨rfl, rfl, rfl⟩, fun e he => plain_of_ofLight (hlight e he)⟩
  | @quiet t hdue fast elapsed look pending hlook hread =>
    obtain ⟨hpending, hrecent⟩ := shouldRead_eq_false.mp hread
    refine ⟨t, _, rfl, fun hearly => absurd hdue (not_le.mpr hearly),
      fun _ => ⟨pending, ?_, ?_, ?_⟩⟩
    · rw [hfast]
      exact (lookedAt_battery hlook (by simp [looks])).append hlooks
    · intro hne
      cases pending with
      | none => cases hpending
      | some pending => exact absurd (congrArg some hpending) hne
    · intro hclock
      have hle : t ≤ elapsed :=
        le_of_clocked [] (⟨.now, fast⟩ :: look) (by simpa using clocked_of_append hclock)
      rw [hat]
      show t < s.batteryAt + fullReadInterval
      omega
  | @read t hdue fast elapsed readAt look sample clear pending battery hlook _ hsample hclear =>
    refine ⟨t, _, rfl, fun hearly => absurd hdue (not_le.mpr hearly),
      fun _ => ⟨pending, ?_, ?_, ?_⟩⟩
    · rw [hfast, List.append_assoc _ sample, List.append_assoc _ _ (sample ++ clear)]
      refine (lookedAt_battery hlook ?_).append hlooks
      simp only [List.forall_mem_append, List.forall_mem_cons]
      exact ⟨⟨rfl, rfl, nofun⟩, fun e he => (hsample.plain e he).1,
        fun e he => (hclear.plain e he).2⟩
    · intro _
      rw [hsame, hat]
      exact (sampledAt_battery hsample fun e he => (hclear.plain e he).1).append hsamples
    · intro hclock
      have hread := clocked_of_append (clocked_of_append (clocked_of_append hclock))
      have hle : t ≤ readAt :=
        le_of_clocked [] (⟨.now, fast⟩ :: look ++ [⟨.now, elapsed⟩]) (by simpa using hread)
      rw [hat]
      show t < readAt + fullReadInterval
      unfold fullReadInterval
      omega

/-- What stands at a place of a trace is in its first part, or the place is after that. -/
lemma mem_or_of_split {α : Type} {first last pre post : List α} {e : α}
    (h : first ++ last = pre ++ e :: post) :
    e ∈ first ∨ ∃ middle, pre = first ++ middle ∧ last = middle ++ e :: post := by
  rcases List.append_eq_append_iff.mp h with ⟨middle, hpre, hlast⟩ | ⟨middle, hfirst, hpost⟩
  · exact .inr ⟨middle, hpre, hlast⟩
  · cases middle with
    | nil => exact .inr ⟨[], by simp [hfirst], by simpa using hpost.symm⟩
    | cons x middle =>
      obtain ⟨rfl, -⟩ := List.cons.inj hpost
      exact .inl (by simp [hfirst])

/-- An iteration that writes to the latches has sampled the battery before. -/
lemma iterate_writes (hruns : (iterate batteryPercent s).Runs trace s')
    {pre post : Trace Volts} {e : Entry (Answer Volts)} (htrace : trace = pre ++ e :: post)
    (he : writes e = true) : SampledAt batteryPercent pre s'.batteryAt s'.battery := by
  obtain ⟨battery, s₂, light, rfl, hbattery, hlight, hsame, hat, -⟩ := iterate_battery hruns
  have hfirst : ∀ {first last : Trace Volts}, (∀ e ∈ first, writes e = false) →
      first ++ last = pre ++ e :: post → ∃ middle, pre = first ++ middle ∧
        last = middle ++ e :: post := fun hnone heq =>
    (mem_or_of_split heq).resolve_left fun hmem => by cases he.symm.trans (hnone e hmem)
  have hlast : ∀ {middle : Trace Volts}, light ≠ middle ++ e :: post := fun heq => by
    have hnone := (plain_of_ofLight (hlight e (by simp [heq]))).2.2
    cases he.symm.trans hnone
  cases hbattery with
  | early t =>
    obtain ⟨middle, -, heq⟩ := hfirst (by simp [writes]) htrace
    exact absurd heq hlast
  | quiet _ fast elapsed hlook =>
    obtain ⟨middle, -, heq⟩ := hfirst (by
      simp only [List.forall_mem_append, List.forall_mem_cons]
      exact ⟨⟨⟨rfl, rfl, nofun⟩, fun e he => (hlook.plain e he).2⟩, rfl, nofun⟩) htrace
    exact absurd heq hlast
  | @read t _ fast elapsed readAt look sample clear pending battery hlook _ hsample hclear =>
    rw [List.append_assoc] at htrace
    obtain ⟨middle, rfl, hmiddle⟩ := hfirst (by
      simp only [List.forall_mem_append, List.forall_mem_cons]
      exact ⟨⟨⟨⟨rfl, rfl, nofun⟩, fun e he => (hlook.plain e he).2⟩, rfl, rfl, nofun⟩,
        fun e he => (hsample.plain e he).2⟩) htrace
    rw [hsame, hat]
    have hnone : ∀ e' ∈ middle, samples e' = false := fun e' he' => by
      have hmem : e' ∈ clear ++ light := by
        rw [hmiddle]
        exact List.mem_append_left _ he'
      rcases List.mem_append.mp hmem with hmem | hmem
      · exact (hclear.plain e' hmem).1
      · exact (plain_of_ofLight (hlight e' hmem)).1
    exact sampledAt_battery hsample hnone

lemma statusClear_of_write {reg value : BitVec 8} {ok : Bool}
    (hruns : (iterate batteryPercent s).Runs trace s')
    (he : (⟨.write reg value, ok⟩ : Entry (Answer Volts)) ∈ trace) :
    (reg, value) ∈ statusClear := by
  obtain ⟨battery, s₂, light, rfl, hbattery, hlight, -⟩ := iterate_battery hruns
  rcases List.mem_append.mp he with he | he
  · exact hbattery.requests _ he
  · rcases hlight _ he with h | h | h | h | h <;> cases h

end Battery

section Latch
variable {Volts : Type} {batteryPercent : Volts → Bool → Bool → ℕ} {s s' : Vars}
  {trace rest : Trace Volts}

/-- A write to the latch of the plug, which may clear it even if it is not acknowledged. -/
def clears (e : Entry (Answer Volts)) : Bool :=
  match e.request with
  | .write reg _ => reg == 0x44
  | _ => false

def enables (e : Entry (Answer Volts)) : Bool :=
  match e.request with
  | .write reg _ => reg == 0x40
  | _ => false

/-- The interrupts of the plug are enabled by the last write to their register, if it was
acknowledged. -/
def enabled (trace : Trace Volts) : Bool :=
  trace.foldl (fun on e =>
    match e with
    | ⟨.write reg value, ok⟩ => if reg == 0x40 then ok && value &&& 0x6C == 0x6C else on
    | _ => on) false

/-- What the two supplies give after a trace, and whether the chip has an interrupt of them latched
then. A supply that comes or goes while the interrupts are enabled is latched, and stays so until
the latch is written to. -/
structure Latches (supply : Trace Volts → Bool × Bool) (latch : Trace Volts → Bool) : Prop where
  edge : ∀ trace e, enabled trace = true → clears e = false →
    supply (trace ++ [e]) ≠ supply trace → latch (trace ++ [e]) = true
  kept : ∀ trace e, latch trace = true → clears e = false → latch (trace ++ [e]) = true

/-- An answer of the chip about the supplies or the latch is true. -/
def truthful (supply : Trace Volts → Bool × Bool) (latch : Trace Volts → Bool) (pre : Trace Volts)
    (e : Entry (Answer Volts)) : Bool :=
  match e with
  | ⟨.acinPresent, some acin⟩ => acin == (supply pre).1
  | ⟨.vbusPresent, some vbus⟩ => vbus == (supply pre).2
  | ⟨.writeRead reg, some status⟩ => reg != 0x44 || !latch pre || status &&& 0x6C != 0
  | _ => true

def Truthful (supply : Trace Volts → Bool × Bool) (latch : Trace Volts → Bool)
    (trace : Trace Volts) : Prop :=
  ∀ pre e post, trace = pre ++ e :: post → truthful supply latch pre e = true

/-- The battery has been sampled, and the latch of the plug not been cleared since. -/
def unclear (trace : Trace Volts) : Bool :=
  trace.foldl (fun unclear e => samples e || unclear && !clears e) false

/-- A supply that could not be read counts as none. -/
def unread (e : Entry (Answer Volts)) : Bool :=
  match e with
  | ⟨.acinPresent, none⟩ | ⟨.vbusPresent, none⟩ => true
  | _ => false

/-- When the battery was last sampled, the supplies could be read, and they did not change before
the latch was cleared. -/
def Undisturbed (supply : Trace Volts → Bool × Bool) (trace : Trace Volts) : Prop :=
  ∀ pre e post, trace = pre ++ e :: post → unclear pre = true →
    (∀ e' ∈ e :: post, samples e' = false) →
    unread e = false ∧ supply (pre ++ [e]) = supply pre

variable {supply : Trace Volts → Bool × Bool} {latch : Trace Volts → Bool}

lemma Truthful.before (h : Truthful supply latch (trace ++ rest)) :
    Truthful supply latch trace := by
  rintro pre e post rfl
  exact h pre e (post ++ rest) (by simp)

lemma Undisturbed.before (h : Undisturbed supply (trace ++ rest))
    (hrest : ∀ e ∈ rest, samples e = false) : Undisturbed supply trace := by
  rintro pre e post rfl hunclear hpost
  exact h pre e (post ++ rest) (by simp) hunclear
    (List.forall_mem_append.mpr ⟨hpost, hrest⟩)

lemma enabled_snoc (trace : Trace Volts) {e : Entry (Answer Volts)} (h : enables e = false) :
    enabled (trace ++ [e]) = enabled trace := by
  rw [enabled, List.foldl_append, ← enabled]
  obtain ⟨r, x⟩ := e
  cases r with
  | write reg value =>
    have hreg : (reg == 0x40) = false := h
    simp only [List.foldl_cons, List.foldl_nil, hreg, Bool.false_eq_true, if_false]
  | _ => rfl

lemma enabled_append (h : ∀ e ∈ rest, enables e = false) :
    enabled (trace ++ rest) = enabled trace := by
  induction rest generalizing trace with
  | nil => rw [List.append_nil]
  | cons e rest ih =>
    obtain ⟨he, hrest⟩ := List.forall_mem_cons.mp h
    rw [List.append_cons, ih hrest, enabled_snoc trace he]

/-- As long as nothing is latched, and the latch was not cleared, the supplies are as they were. -/
lemma Latches.calm (hchip : Latches supply latch) (hon : enabled trace = true)
    (hrest : ∀ e ∈ rest, clears e = false ∧ enables e = false)
    (hlatch : latch (trace ++ rest) = false) :
    latch trace = false ∧ supply (trace ++ rest) = supply trace := by
  induction rest using List.reverseRecOn with
  | nil => simpa using hlatch
  | append_singleton rest e ih =>
    rw [List.forall_mem_append, List.forall_mem_singleton] at hrest
    obtain ⟨hrest, hclears, -⟩ := hrest
    rw [← List.append_assoc] at hlatch ⊢
    have hon' : enabled (trace ++ rest) = true :=
      (enabled_append fun e he => (hrest e he).2).trans hon
    have hkept : latch (trace ++ rest) = false := by
      by_contra hne
      rw [hchip.kept _ e (eq_true_of_ne_false hne) hclears] at hlatch
      cases hlatch
    have hsame : supply (trace ++ rest ++ [e]) = supply (trace ++ rest) := by
      by_contra hne
      rw [hchip.edge _ e hon' hclears hne] at hlatch
      cases hlatch
    obtain ⟨hlatched, hsupply⟩ := ih hrest hkept
    exact ⟨hlatched, hsame.trans hsupply⟩

lemma clears_of_writes {e : Entry (Answer Volts)} (h : writes e = false) :
    clears e = false ∧ enables e = false := by
  obtain ⟨r, x⟩ := e
  cases r with
  | write => cases h
  | _ => exact ⟨rfl, rfl⟩

/-- Only the first write of the clearing is one to the latch of the plug. -/
lemma Clear.head (h : Clear rest) : ∃ w after, rest = w :: after ∧ samples w = false ∧
    enables w = false ∧ ∀ e ∈ after, samples e = false ∧ clears e = false ∧ enables e = false := by
  cases h with
  | first => exact ⟨_, [], rfl, rfl, rfl, nofun⟩
  | both ok => exact ⟨_, _, rfl, rfl, rfl, by simp [samples, clears, enables]⟩

lemma unclear_snoc (trace : Trace Volts) (e : Entry (Answer Volts)) :
    unclear (trace ++ [e]) = (samples e || unclear trace && !clears e) := by
  rw [unclear, List.foldl_append, ← unclear]
  rfl

/-- A sample that nothing disturbed tells the supply as it is when the latch has been cleared. -/
lemma powered_of_sample {pre sample tail : Trace Volts} {w : Entry (Answer Volts)}
    {battery : Battery} (hsample : Sample batteryPercent sample (some battery))
    (hw : samples w = false) (htail : ∀ e ∈ tail, samples e = false)
    (htrue : Truthful supply latch (pre ++ sample ++ w :: tail))
    (hcalm : Undisturbed supply (pre ++ sample ++ w :: tail)) :
    battery.powered =
      ((supply (pre ++ sample ++ [w])).1 || (supply (pre ++ sample ++ [w])).2) := by
  have hlast : ∀ e ∈ w :: tail, samples e = false := List.forall_mem_cons.mpr ⟨hw, htail⟩
  cases hsample with
  | acin volts charging =>
    rw [show ∀ acin, pre ++ [⟨.batteryVoltage, some volts⟩, ⟨.charging, charging⟩, acin] =
      pre ++ [⟨.batteryVoltage, some volts⟩, ⟨.charging, charging⟩] ++ [acin] by simp]
      at htrue hcalm ⊢
    have hunclear : unclear (pre ++ [⟨.batteryVoltage, some volts⟩, ⟨.charging, charging⟩]) =
        true := by simp [unclear, samples, clears]
    generalize pre ++ [⟨.batteryVoltage, some volts⟩, ⟨.charging, charging⟩] = pre
      at htrue hcalm hunclear ⊢
    have hacin := htrue pre ⟨.acinPresent, some true⟩ (w :: tail) (by simp)
    obtain ⟨-, hsame⟩ := hcalm pre ⟨.acinPresent, some true⟩ (w :: tail) (by simp) hunclear
      (List.forall_mem_cons.mpr ⟨rfl, hlast⟩)
    obtain ⟨-, hcleared⟩ := hcalm _ w tail rfl (by rw [unclear_snoc, hunclear]; rfl) hlast
    rw [hcleared, hsame, ← beq_iff_eq.mp hacin]
    rfl
  | vbus volts charging acin vbus hne =>
    rw [show ∀ acin vbus, pre ++ [⟨.batteryVoltage, some volts⟩, ⟨.charging, charging⟩, acin,
      vbus] = pre ++ [⟨.batteryVoltage, some volts⟩, ⟨.charging, charging⟩] ++ [acin] ++ [vbus]
      by simp] at htrue hcalm ⊢
    have hunclear : unclear (pre ++ [⟨.batteryVoltage, some volts⟩, ⟨.charging, charging⟩]) =
        true := by simp [unclear, samples, clears]
    generalize pre ++ [⟨.batteryVoltage, some volts⟩, ⟨.charging, charging⟩] = pre
      at htrue hcalm hunclear ⊢
    have hunclear' : unclear (pre ++ [⟨.acinPresent, acin⟩]) = true := by
      simp [unclear_snoc, hunclear, clears]
    obtain ⟨hacin, hsame⟩ := hcalm pre ⟨.acinPresent, acin⟩ (⟨.vbusPresent, vbus⟩ :: w :: tail)
      (by simp) hunclear (List.forall_mem_cons.mpr ⟨rfl, List.forall_mem_cons.mpr ⟨rfl, hlast⟩⟩)
    obtain ⟨hvbus, hsame'⟩ := hcalm (pre ++ [⟨.acinPresent, acin⟩]) ⟨.vbusPresent, vbus⟩
      (w :: tail) (by simp) hunclear' (List.forall_mem_cons.mpr ⟨rfl, hlast⟩)
    obtain ⟨-, hcleared⟩ := hcalm _ w tail rfl (by rw [unclear_snoc, hunclear']; rfl) hlast
    have htrue₁ := htrue pre ⟨.acinPresent, acin⟩ (⟨.vbusPresent, vbus⟩ :: w :: tail) (by simp)
    have htrue₂ := htrue (pre ++ [⟨.acinPresent, acin⟩]) ⟨.vbusPresent, vbus⟩ (w :: tail) (by simp)
    cases acin with
    | none => cases hacin
    | some acin =>
      cases vbus with
      | none => cases hvbus
      | some vbus =>
        obtain rfl : acin = false := Bool.eq_false_iff.mpr fun h => hne (congrArg some h)
        rw [hcleared, hsame', ← beq_iff_eq.mp htrue₂, hsame, ← beq_iff_eq.mp htrue₁]
        rfl

/-- What the loop shows is the supply as it was when the latch was last cleared, and so as it is if
nothing is latched. -/
structure Current (supply : Trace Volts → Bool × Bool) (latch : Trace Volts → Bool) (s : Vars)
    (trace : Trace Volts) : Prop where
  enabled : enabled trace = true
  powered : Truthful supply latch trace → Undisturbed supply trace → latch trace = false →
    ∀ battery, s.battery = some battery →
      battery.powered = ((supply trace).1 || (supply trace).2)

lemma Current.append (hchip : Latches supply latch) (h : Current supply latch s trace)
    (hbattery : s'.battery = s.battery)
    (hrest : ∀ e ∈ rest, samples e = false ∧ clears e = false ∧ enables e = false) :
    Current supply latch s' (trace ++ rest) := by
  refine ⟨(enabled_append fun e he => (hrest e he).2.2).trans h.enabled, ?_⟩
  intro htrue hcalm hlatch battery hsome
  obtain ⟨hlatched, hsame⟩ := hchip.calm h.enabled (fun e he => (hrest e he).2) hlatch
  rw [hsame]
  exact h.powered htrue.before (hcalm.before fun e he => (hrest e he).1) hlatched battery
    (hbattery ▸ hsome)

/-- A trace that only looks at the latches and at the clock, or works on the light. -/
def Plain (trace : Trace Volts) : Prop :=
  ∀ e ∈ trace, samples e = false ∧ clears e = false ∧ enables e = false

lemma plain_light (h : ∀ e ∈ trace, ofLight e.request) : Plain trace := fun e he =>
  ⟨(plain_of_ofLight (h e he)).1, clears_of_writes (plain_of_ofLight (h e he)).2.2⟩

lemma Plain.append (h : Plain trace) (hrest : Plain rest) : Plain (trace ++ rest) :=
  List.forall_mem_append.mpr ⟨h, hrest⟩

lemma plain_now (ts : List ℕ) : Plain (ts.map fun t => (⟨.now, t⟩ : Entry (Answer Volts))) := by
  intro e he
  obtain ⟨t, -, rfl⟩ := List.mem_map.mp he
  exact ⟨rfl, rfl, rfl⟩

lemma Look.toPlain {pending : Option Bool} (h : Look trace pending) : Plain trace := fun e he =>
  ⟨(h.plain e he).1, clears_of_writes (h.plain e he).2⟩

/-- An iteration either samples the battery and clears the latch then, or does neither. Where it has
looked at the latch and does neither, nothing was latched. -/
lemma iterate_samples (hruns : (iterate batteryPercent s).Runs trace s') :
    (s'.battery = s.battery ∧ Plain trace ∧ ((∃ e ∈ trace, looks e = true) →
      ∃ pre status post, trace = pre ++ ⟨.writeRead 0x44, some status⟩ :: post ∧
        status &&& 0x6C = 0)) ∨
    ∃ head sample w tail, trace = head ++ sample ++ w :: tail ∧
      Sample batteryPercent sample s'.battery ∧ Plain head ∧ samples w = false ∧
      enables w = false ∧ Plain tail := by
  obtain ⟨battery, s₂, light, rfl, hbattery, hlight, hsame, -⟩ := iterate_battery hruns
  have hplain := plain_light hlight
  cases hbattery with
  | early t =>
    refine .inl ⟨hsame, (plain_now [t]).append hplain, fun ⟨e, he, hlooks⟩ => ?_⟩
    rcases List.mem_append.mp he with he | he
    · obtain rfl := List.mem_singleton.mp he
      cases hlooks
    · cases hlooks.symm.trans (plain_of_ofLight (hlight e he)).2.1
  | @quiet t _ fast elapsed look pending hlook hread =>
    refine .inl ⟨hsame, (((plain_now [t, fast]).append hlook.toPlain).append
      (plain_now [elapsed])).append hplain, fun _ => ?_⟩
    obtain ⟨hpending, -⟩ := shouldRead_eq_false.mp hread
    cases hlook with
    | first => cases hpending
    | second => cases hpending
    | both status44 status45 =>
      refine ⟨[⟨.now, t⟩, ⟨.now, fast⟩], status44, _, rfl, ?_⟩
      simp only [Option.getD_some, isPending, Bool.or_eq_false_iff, bne_eq_false_iff_eq] at hpending
      exact hpending.1
  | @read t _ fast elapsed readAt look sample clear pending battery hlook _ hsample hclear =>
    obtain ⟨w, after, rfl, hw, henables, hafter⟩ := hclear.head
    refine .inr ⟨_, sample, w, after ++ light, List.append_assoc .., hsame ▸ hsample,
      ((plain_now [t, fast]).append hlook.toPlain).append (plain_now [elapsed, readAt]), hw,
      henables, List.forall_mem_append.mpr ⟨hafter, hplain⟩⟩

lemma Current.iterate (hchip : Latches supply latch) (h : Current supply latch s trace)
    (hruns : (iterate batteryPercent s).Runs rest s') :
    Current supply latch s' (trace ++ rest) := by
  rcases iterate_samples hruns with ⟨hsame, hplain, -⟩ |
    ⟨head, sample, w, tail, rfl, hsample, hhead, hw, henables, htail⟩
  · exact h.append hchip hsame hplain
  · have hon : Board.enabled (trace ++ head ++ sample ++ [w]) = true := by
      rw [enabled_snoc _ henables, enabled_append fun e he =>
        (clears_of_writes (hsample.plain e he).2).2, enabled_append fun e he => (hhead e he).2.2]
      exact h.enabled
    have heq : trace ++ (head ++ sample ++ w :: tail) = trace ++ head ++ sample ++ w :: tail := by
      simp
    rw [heq]
    constructor
    · rw [List.append_cons, enabled_append fun e he => (htail e he).2.2]
      exact hon
    · intro htrue hcalm hlatch battery hsome
      rw [hsome] at hsample
      have hpowered := powered_of_sample hsample hw (fun e he => (htail e he).1) htrue hcalm
      rw [List.append_cons] at hlatch ⊢
      rw [(hchip.calm hon (fun e he => (htail e he).2) hlatch).2]
      exact hpowered

/-- Where the supply does not change in an iteration that looks at the latch, it leaves the supply
as it is. -/
lemma iterate_powered (hchip : Latches supply latch) (h : Current supply latch s trace)
    (hruns : (iterate batteryPercent s).Runs rest s') (hlooks : ∃ e ∈ rest, looks e = true)
    (htrue : Truthful supply latch (trace ++ rest)) (hcalm : Undisturbed supply (trace ++ rest))
    (hstill : ∀ pre post, rest = pre ++ post → supply (trace ++ pre) = supply trace)
    {battery : Battery} (hsome : s'.battery = some battery) :
    battery.powered = ((supply (trace ++ rest)).1 || (supply (trace ++ rest)).2) := by
  rw [hstill rest [] (List.append_nil _).symm]
  rcases iterate_samples hruns with ⟨hsame, hplain, hlatched⟩ |
    ⟨head, sample, w, tail, rfl, hsample, -, hw, -, htail⟩
  · obtain ⟨pre, status, post, rfl, hstatus⟩ := hlatched hlooks
    have hread := htrue (trace ++ pre) ⟨.writeRead 0x44, some status⟩ post (by simp)
    have hnone : latch (trace ++ pre) = false := by
      simp only [truthful, hstatus] at hread
      simpa using hread
    have hpre : Plain pre := fun e he => hplain e (List.mem_append_left _ he)
    obtain ⟨hlatch, -⟩ := hchip.calm h.enabled (fun e he => (hpre e he).2) hnone
    exact h.powered htrue.before (hcalm.before fun e he => (hplain e he).1) hlatch battery
      (hsame ▸ hsome)
  · rw [hsome] at hsample
    have heq : trace ++ (head ++ sample ++ w :: tail) = trace ++ head ++ sample ++ w :: tail := by
      simp
    rw [heq] at htrue hcalm
    rw [powered_of_sample hsample hw (fun e he => (htail e he).1) htrue hcalm,
      show trace ++ head ++ sample ++ [w] = trace ++ (head ++ sample ++ [w]) by simp,
      hstill (head ++ sample ++ [w]) tail (by simp)]

lemma or_and_self (x m : BitVec 8) : (x ||| m) &&& m = m := by
  ext i
  simp only [BitVec.getElem_and, BitVec.getElem_or]
  cases x[i] <;> cases m[i] <;> rfl

lemma enabled_enableTrace (current40 current41 : BitVec 8) :
    enabled (enableTrace current40 current41 : Trace Volts) = true := by
  simp [enabled, enableTrace, or_and_self]

/-- The boot enables the interrupts, and then the loop begins with no battery. -/
lemma boot_battery {percent : ℕ} {booted : Trace Volts} {s₁ : Vars}
    (hboot : (boot percent).Runs booted (some s₁)) : s₁.battery = none ∧
      ∃ current40 current41 settings, booted = enableTrace current40 current41 ++ settings ∧
        ∀ e ∈ settings, samples e = false ∧ looks e = false ∧ writes e = false := by
  obtain ⟨current40, current41, hbattery, -, -, rfl⟩ := boot_runs hboot
  rw [List.append_assoc]
  refine ⟨hbattery, current40, current41, _, rfl, ?_⟩
  simp [acknowledged, powerSettings, samples, looks, writes]

lemma boot_shown {percent : ℕ} {booted : Trace Volts} {s₁ : Vars}
    (hboot : (boot percent).Runs booted (some s₁)) : Shown batteryPercent s₁ s₁ booted := by
  obtain ⟨hbattery, current40, current41, settings, rfl, hplain⟩ := boot_battery hboot
  have henable : ∀ e ∈ (enableTrace current40 current41 : Trace Volts),
      samples e = false ∧ looks e = false := by
    simp [enableTrace, samples, looks]
  refine ⟨.inr ⟨rfl, hbattery, ?_⟩, .inr ⟨rfl, ?_⟩⟩
  · exact List.forall_mem_append.mpr
      ⟨fun e he => (henable e he).1, fun e he => (hplain e he).1⟩
  · exact List.forall_mem_append.mpr
      ⟨fun e he => (henable e he).2, fun e he => (hplain e he).2.1⟩

lemma boot_current {percent : ℕ} {booted : Trace Volts} {s₁ : Vars}
    (hboot : (boot percent).Runs booted (some s₁)) : Current supply latch s₁ booted := by
  obtain ⟨hbattery, current40, current41, settings, rfl, hplain⟩ := boot_battery hboot
  refine ⟨?_, fun _ _ _ battery hsome => ?_⟩
  · rw [enabled_append fun e he => (clears_of_writes (hplain e he).2.2).2]
    exact enabled_enableTrace current40 current41
  · cases hbattery.symm.trans hsome

/-- In every run of the loop from power-on, and in each of its iterations: the boot enables the
interrupts of the supplies and writes nothing else, and an iteration writes only to clear these,
after it has sampled the battery. What is shown of the battery is what was sampled last, with the
time of that. An iteration leaves it alone until a second has passed since the last look at the
latches, and then looks at them: where they hold something, or cannot be read, it samples the
battery, and in any case that was sampled, or the loop began, less than ten seconds before. Then a
chip that latches each change of its supplies is shown as powered exactly if it is, unless the last
sample was disturbed or a supply changes during the iteration. -/
theorem battery_is_current {percent : ℕ} {booted it : Trace Volts} {s₁ : Vars}
    {es : List (Trace Volts)} (hboot : (boot percent).Runs booted (some s₁))
    (hrun : (mainLoop batteryPercent).Run (s₁, booted) es (s, trace))
    (hruns : (iterate batteryPercent s).Runs it s') :
    (∃ current40 current41 settings, booted = enableTrace current40 current41 ++ settings ∧
      ∀ e ∈ settings, writes e = false) ∧
    (∀ pre reg value ok post, it = pre ++ ⟨.write reg value, ok⟩ :: post →
      (reg, value) ∈ statusClear ∧ SampledAt batteryPercent pre s'.batteryAt s'.battery) ∧
    Shown batteryPercent s₁ s' (trace ++ it) ∧
    ∃ (t : ℕ) (rest : _), it = ⟨.now, t⟩ :: rest ∧
      (t - s.batteryFastAt < batteryPollInterval → s'.battery = s.battery ∧
        ∀ e ∈ it, samples e = false ∧ looks e = false ∧ writes e = false) ∧
      (batteryPollInterval ≤ t - s.batteryFastAt → ∃ pending,
        LookedAt it s'.batteryFastAt pending ∧
        (pending ≠ some false → SampledAt batteryPercent it s'.batteryAt s'.battery) ∧
        (Clocked it → t < s'.batteryAt + fullReadInterval) ∧
        ∀ supply latch, Latches supply latch → Truthful supply latch (trace ++ it) →
          Undisturbed supply (trace ++ it) →
          (∀ pre post, it = pre ++ post → supply (trace ++ pre) = supply trace) →
          ∀ battery, s'.battery = some battery →
            battery.powered = ((supply (trace ++ it)).1 || (supply (trace ++ it)).2)) := by
  obtain ⟨-, current40, current41, settings, hbooted, hplain⟩ := boot_battery hboot
  have hshown : Shown batteryPercent s₁ s trace :=
    loop_invariant (I := Shown batteryPercent s₁) (fun _ _ _ _ hruns h => h.iterate hruns) hrun
      (boot_shown hboot)
  obtain ⟨t, rest, hit, hearly, hdue⟩ := iterate_looks hruns
  refine ⟨⟨current40, current41, settings, hbooted, fun e he => (hplain e he).2.2⟩,
    fun pre reg value ok post htrace => ?_, hshown.iterate hruns, t, rest, hit, hearly, fun h => ?_⟩
  · have hmem : (⟨.write reg value, ok⟩ : Entry (Answer Volts)) ∈ it := by simp [htrace]
    exact ⟨statusClear_of_write hruns hmem, iterate_writes hruns htrace rfl⟩
  · obtain ⟨pending, hlooked, hsampled, hrecent⟩ := hdue h
    refine ⟨pending, hlooked, hsampled, hrecent, ?_⟩
    intro supply latch hchip htrue hcalm hstill battery hsome
    have hcurrent : Current supply latch s trace :=
      loop_invariant (I := Current supply latch) (fun _ _ _ _ hruns h => h.iterate hchip hruns)
        hrun (boot_current hboot)
    exact iterate_powered hchip hcurrent hruns hlooked.exists_looks htrue hcalm hstill hsome

end Latch

/-- The plug is in until a trace has so many entries. -/
def pulled (k : ℕ) (trace : Trace ℕ) : Bool × Bool := (trace.length < k, false)

def pulledLatch (k : ℕ) (trace : Trace ℕ) : Bool :=
  k ≤ trace.length && (trace.drop k).all fun e => !clears e

lemma latches_pulled (k : ℕ) : Latches (pulled k) (pulledLatch k) where
  edge trace e _ _ hne := by
    have hlength : k = trace.length + 1 := by
      by_contra hk
      refine hne ?_
      simp only [pulled, List.length_append, List.length_singleton]
      congr 2
      simp
      omega
    subst hlength
    simp [pulledLatch]
  kept trace e hlatch hclears := by
    simp only [pulledLatch, Bool.and_eq_true, decide_eq_true_eq] at hlatch ⊢
    obtain ⟨hle, hall⟩ := hlatch
    rw [List.drop_append_of_le_length hle, List.all_append, hall]
    simp [hclears, hle, Nat.le_succ_of_le]

/-- An iteration of an untouched display. -/
def turn (time : ℕ) (latched : BitVec 8) (acin : Bool) (s : Vars) : Trace ℕ × Vars :=
  (iterate (fun _ _ _ => 80) s).play (answer time 80 false latched acin)

lemma forall_split {α : Type} {P : List α → α → List α → Prop} {l : List α}
    (h : ∀ i : Fin l.length, P (l.take i) (l.get i) (l.drop (i + 1))) :
    ∀ pre e post, l = pre ++ e :: post → P pre e post := by
  rintro pre e post rfl
  simpa using h ⟨pre.length, by simp⟩

/-- A register that was read held a value. -/
def holds (value : BitVec 8) (e : Entry (Answer ℕ)) : Bool :=
  match e with
  | ⟨.writeRead _, some status⟩ => status == value
  | _ => true

/-- The plug is in when the battery is first sampled, and is pulled after that. -/
theorem battery_is_current_unplugged :
    let first := turn 10000000000 0 true bootVars
    let second := turn 11000000000 0x20 false first.2
    first.2.battery = some ⟨80, false, true⟩ ∧
      SampledAt (fun _ _ _ => 80) second.1 11000000000 second.2.battery ∧
      ∀ battery, second.2.battery = some battery → battery.powered = false := by
  intro first second
  have hfirst : (iterate (fun _ _ _ => 80) bootVars).Runs first.1 first.2 := Program.runs_play _ _
  have hsecond : (iterate (fun _ _ _ => 80) first.2).Runs second.1 second.2 :=
    Program.runs_play _ _
  have hlength : (booted ++ first.1).length = 41 := by decide
  have htrue : Truthful (pulled 41) (pulledLatch 41) (booted ++ first.1 ++ second.1) :=
    forall_split (by decide)
  have hcalm : Undisturbed (pulled 41) (booted ++ first.1 ++ second.1) :=
    forall_split (by decide)
  have hstill : ∀ pre post, second.1 = pre ++ post →
      pulled 41 (booted ++ first.1 ++ pre) = pulled 41 (booted ++ first.1) := by
    intro pre post _
    rw [pulled, pulled, List.length_append, hlength]
    simp
  obtain ⟨-, -, -, t, rest, hit, -, hdue⟩ :=
    battery_is_current boot_booted (.one (e := first.1) ⟨hfirst, rfl⟩) hsecond
  obtain rfl : t = 11000000000 := by
    injection (List.cons.inj hit).1 with _ ht
    exact ht.symm
  obtain ⟨pending, hlooked, hsampled, -, hpowered⟩ := hdue (by decide)
  -- each latch that was read held the event
  have hheld : ∀ e ∈ second.1, holds 0x20 e = true := by decide
  refine ⟨by decide, hsampled ?_, fun battery hbattery => ?_⟩
  · obtain ⟨pre, look, post, heq, hlook, -⟩ := hlooked
    cases hlook with
    | first | second => nofun
    | both status44 status45 =>
      obtain rfl := beq_iff_eq.mp (hheld ⟨.writeRead 0x44, some status44⟩ (by simp [heq]))
      simp [isPending]
  · have hpulled := hpowered _ _ (latches_pulled 41) htrue hcalm hstill battery hbattery
    rw [hpulled]
    decide

end PcRemote.Board
