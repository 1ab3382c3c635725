import PcRemote.MainLoop

/-! The clock and the month on a lit display. The recorded minute and the recorded day tell the loop
when the display is behind the clock; each is written together with what is drawn. -/
namespace PcRemote.MainLoop
open Config Panel Text Transition Ui

variable {config : AppConfig}

lemma localSeconds_mem {unix tz seconds : ℤ} (h : localSeconds unix tz = some seconds) :
    InI64 seconds ∧ seconds = unix + tz * 3600 := by
  simp only [localSeconds, i64, Option.bind_eq_bind, Option.bind_eq_some_iff,
    Option.ite_none_right_eq_some, Option.some.injEq] at h
  obtain ⟨offset, ⟨-, rfl⟩, hin, rfl⟩ := h
  exact ⟨hin, rfl⟩

lemma currentClockMinute_eq_some {unix minute : ℤ}
    (h : currentClockMinute config unix = some minute) :
    (isNtpSynced unix = false ∧ minute = i64Min) ∨
    ∃ seconds, isNtpSynced unix = true ∧
      localSeconds unix (config.int .timezoneOffsetHours) = some seconds ∧
      minute = seconds / 60 ∧ i64Min < minute := by
  unfold currentClockMinute at h
  cases hsynced : isNtpSynced unix with
  | false =>
    rw [hsynced, if_pos rfl] at h
    exact .inl ⟨rfl, (Option.some.inj h).symm⟩
  | true =>
    simp only [hsynced, Bool.true_eq_false, if_false, Option.bind_eq_bind,
      Option.bind_eq_some_iff] at h
    obtain ⟨seconds, hseconds, hminute⟩ := h
    obtain rfl := Option.some.inj hminute
    have hmem := (localSeconds_mem hseconds).1
    refine .inr ⟨seconds, rfl, hseconds, rfl, ?_⟩
    unfold InI64 i64Min i64Max at *
    omega

/-- Within a minute the clock on display does not change. -/
lemma currentClock_eq {u v minute : ℤ} (hu : currentClockMinute config u = some minute)
    (hv : currentClockMinute config v = some minute) :
    currentClock config u = currentClock config v := by
  unfold currentClock clockStrings
  rcases currentClockMinute_eq_some hu with ⟨hsu, hmu⟩ | ⟨su, hsu, hlu, hmu, hlt⟩ <;>
    rcases currentClockMinute_eq_some hv with ⟨hsv, hmv⟩ | ⟨sv, hsv, hlv, hmv, hlt'⟩
  · rw [hsu, hsv, if_pos rfl, if_pos rfl]
  · omega
  · omega
  · have hdays : su / 86400 = sv / 86400 := by omega
    have hhour : (su % 86400).tdiv 3600 = (sv % 86400).tdiv 3600 := by
      rw [Int.tdiv_eq_ediv_of_nonneg (by omega), Int.tdiv_eq_ediv_of_nonneg (by omega)]
      omega
    have hminute : ((su % 86400).tmod 3600).tdiv 60 = ((sv % 86400).tmod 3600).tdiv 60 := by
      rw [Int.tmod_eq_emod_of_nonneg (by omega), Int.tmod_eq_emod_of_nonneg (by omega),
        Int.tdiv_eq_ediv_of_nonneg (by omega), Int.tdiv_eq_ediv_of_nonneg (by omega)]
      omega
    simp only [hsu, hsv, hlu, hlv, Bool.true_eq_false, if_false, Option.bind_eq_bind,
      Option.bind_some, hdays, hhour, hminute]

lemma exists_currentClockMinute {unix : ℤ} {clock : ClockStrings}
    (h : currentClock config unix = some clock) :
    ∃ minute, currentClockMinute config unix = some minute := by
  unfold currentClock clockStrings at h
  unfold currentClockMinute
  cases hsynced : isNtpSynced unix with
  | false => exact ⟨i64Min, rfl⟩
  | true =>
    simp only [hsynced, Bool.true_eq_false, if_false, Option.bind_eq_bind,
      Option.bind_eq_some_iff] at h
    obtain ⟨seconds, hseconds, -⟩ := h
    exact ⟨seconds / 60, by simp [hseconds]⟩

lemma currentClockMinute_mono {u v mu mv : ℤ} (hu : currentClockMinute config u = some mu)
    (hv : currentClockMinute config v = some mv) (h : u ≤ v) : mu ≤ mv := by
  rcases currentClockMinute_eq_some hu with ⟨hsu, rfl⟩ | ⟨su, hsu, hlu, rfl, hlt⟩ <;>
    rcases currentClockMinute_eq_some hv with ⟨hsv, rfl⟩ | ⟨sv, hsv, hlv, rfl, hlt'⟩
  · exact le_refl _
  · exact hlt'.le
  · have hle : minValidUnixTime ≤ u := of_decide_eq_true hsu
    have hgt : ¬ minValidUnixTime ≤ v := of_decide_eq_false hsv
    omega
  · have hsu' := (localSeconds_mem hlu).2
    have hsv' := (localSeconds_mem hlv).2
    omega

/-- Within a day the month on display does not change. -/
lemma calendarView_eq {u v tz : ℤ} {day : Option CalendarDay} (hu : calendarDate u tz = some day)
    (hv : calendarDate v tz = some day) : calendarView u tz = calendarView v tz := by
  have hdate : ∀ {x : ℤ} {d : CalendarDay}, calendarDate x tz = some (some d) →
      ∃ seconds, localSeconds x tz = some seconds ∧ InI64 (seconds / 86400) ∧
        civilFromDays (seconds / 86400) = some d := by
    intro x d h
    unfold calendarDate at h
    split_ifs at h
    · cases Option.some.inj h
    · simp only [Option.bind_eq_bind, Option.bind_eq_some_iff] at h
      obtain ⟨seconds, hseconds, date, hcivil, heq⟩ := h
      obtain rfl := Option.some.inj (Option.some.inj heq)
      have hmem := (localSeconds_mem hseconds).1
      refine ⟨seconds, hseconds, ?_, hcivil⟩
      unfold InI64 i64Min i64Max at *
      omega
  unfold calendarView
  rw [hu, hv]
  cases day with
  | none => rfl
  | some d =>
    obtain ⟨su, hlu, hinu, hcu⟩ := hdate hu
    obtain ⟨sv, hlv, hinv, hcv⟩ := hdate hv
    have hdays : su / 86400 = sv / 86400 :=
      civilFromDays_bijOn.injOn (convertible_of_civilFromDays hinu hcu)
        (convertible_of_civilFromDays hinv hcv) (hcu.trans hcv.symm)
    simp only [hlu, hlv, hdays, Option.bind_eq_bind, Option.bind_some]

section Iteration
variable {P : ℤ → ℤ → Prop} {w w' : World} {r : Readings}

def Times.clocks (t : Times) : List ℤ := [t.first, t.second]

def Readings.times (r : Readings) : List Times := r.clockTimes ++ [r.dayTimes]

/-- All readings of the wall clock in an iteration, in their order. -/
def Readings.clocks (r : Readings) : List ℤ := r.times.flatMap Times.clocks

/-- What a lit display shows of the time is from a reading of this very iteration. -/
def Current (config : AppConfig) (w : World) (r : Readings) : Prop :=
  (w.panel.screen = .main → ∃ v ∈ r.clocks, ∃ clock,
    currentClock config v = some clock ∧ w.frame.clock = some clock) ∧
  (w.panel.screen = .calendar → ∃ v ∈ r.clocks, ∃ view,
    calendarView v (config.int .timezoneOffsetHours) = some view ∧ w.frame.body = .month view)

lemma mem_clocks {t : Times} (h : t ∈ r.times) : t.first ∈ r.clocks ∧ t.second ∈ r.clocks :=
  ⟨List.mem_flatMap.mpr ⟨t, h, by simp [Times.clocks]⟩,
    List.mem_flatMap.mpr ⟨t, h, by simp [Times.clocks]⟩⟩

lemma refreshMain_current {toast : Option String} {t : Times} (ht : t ∈ r.times)
    (hs : w.panel.screen = .main) (h : refreshMain config w toast t = some w') :
    Current config w' r := by
  obtain ⟨minute, clock, -, hclock, rfl⟩ := refreshMain_eq_some h
  refine ⟨fun _ => ⟨t.second, (mem_clocks ht).2, clock, hclock, rfl⟩, fun hs' => ?_⟩
  exact absurd (hs.symm.trans hs') (by simp)

lemma refreshCurrentScreen_current {toast : Option String} {t : Times} (ht : t ∈ r.times)
    (h : refreshCurrentScreen config w toast t = some w') : Current config w' r := by
  unfold refreshCurrentScreen at h
  split at h
  · exact refreshMain_current ht ‹_› h
  · rename_i hs
    obtain ⟨day, view, -, hview, rfl⟩ := refreshCalendar_eq_some h
    exact ⟨fun hs' => absurd (hs.symm.trans hs') (by simp),
      fun _ => ⟨t.first, (mem_clocks ht).1, view, hview, rfl⟩⟩
  · rename_i action hs
    obtain rfl := Option.some.inj h
    exact ⟨fun hs' => absurd (hs.symm.trans hs') (by simp),
      fun hs' => absurd (hs.symm.trans hs') (by simp)⟩

/-- A tap that is turned away because the panel is locked. -/
def Rejects (s : LoopState) (p : Panel.Readings) (result : TapResult) : Prop :=
  ∃ handler, result = ⟨Panel.rejectLocked s p, ⟨some handler, []⟩, true⟩ ∧
    (handler = .rejectLocked ∨ handler = .wake ∨ ∃ action, handler = .ok action)

lemma tapWake_skip {s : LoopState} {p : Panel.Readings} (h : (tapWake s p).skip = true) :
    Rejects s p (tapWake s p) := by
  unfold tapWake at h ⊢
  split_ifs at h ⊢
  exact ⟨.wake, rfl, .inr (.inl rfl)⟩

lemma tapMain_skip {s : LoopState} {p : Panel.Readings} {x y : ℤ}
    (h : (tapMain s p x y).skip = true) : Rejects s p (tapMain s p x y) := by
  unfold tapMain at h ⊢
  split_ifs at h ⊢
  exact tapWake_skip h

lemma tapConfirm_skip {s : LoopState} {p : Panel.Readings} {action : PowerAction} {x y : ℤ}
    (h : (tapConfirm s p action x y).skip = true) : Rejects s p (tapConfirm s p action x y) := by
  unfold tapConfirm tapOk at h ⊢
  split_ifs at h ⊢
  exact ⟨.ok action, rfl, .inr (.inr ⟨action, rfl⟩)⟩

lemma tap_skip {s : LoopState} {p : Panel.Readings} {x y : ℤ} (h : (tap s p x y).skip = true) :
    Rejects s p (tap s p x y) := by
  unfold tap at h ⊢
  split_ifs at h ⊢
  · exact ⟨.rejectLocked, rfl, .inl rfl⟩
  · split at h
    · exact tapMain_skip h
    · exact tapMain_skip h
    · exact tapConfirm_skip h

lemma drawTap_rejects {s : LoopState} {p : Panel.Readings} {result : TapResult} {t : Times}
    (h : drawTap config w result.output.handler result.skip t = some w')
    (hrejects : Rejects s p result) (hs : w.panel.screen = result.panel.screen)
    (ht : t ∈ r.times) : Current config w' r := by
  obtain ⟨handler, rfl, rfl | rfl | ⟨action, rfl⟩⟩ := hrejects <;>
    exact refreshMain_current ht hs h

lemma tapPart_skip {out : Output} (h : tapPart config w r = some (w', out, true)) :
    Current config w' r := by
  simp only [tapPart] at h
  split at h
  · split_ifs at h
    · cases Option.some.inj h
    · rw [Option.bind_eq_bind, Option.bind_eq_some_iff] at h
      obtain ⟨v, hv, heq⟩ := h
      have hskip := congrArg (fun e => e.2.2) (Option.some.inj heq)
      obtain rfl := congrArg (fun e => e.1) (Option.some.inj heq)
      exact drawTap_rejects hv (tap_skip hskip) rfl (by simp [Readings.times, Readings.clockTimes])
  · cases Option.some.inj h

/-- An iteration that ends with the touch has drawn the screen there is. -/
lemma touchPart_skip {out : Output} (h : touchPart config w r = some (w', out, true)) :
    Current config w' r := by
  simp only [touchPart] at h
  split at h
  · obtain ⟨v, hv, heq⟩ := Option.map_eq_some_iff.mp h
    cases heq
    simp only [wakePart] at hv
    split at hv
    · rename_i action hs
      obtain rfl := Option.some.inj hv
      exact ⟨fun hs' => absurd (hs.symm.trans hs') (by simp),
        fun hs' => absurd (hs.symm.trans hs') (by simp)⟩
    · exact refreshCurrentScreen_current (by simp [Readings.times, Readings.clockTimes]) hv
  · exact tapPart_skip h

/-- No reading on display is later than the one the minute is looked up from, unless it is the one
that follows. -/
def NotLater (r : Readings) (u v : ℤ) : Prop :=
  u ≤ v ∧ (v ≤ r.minuteTimes.first ∨ v = r.minuteTimes.second)

/-- A recorded minute that has not passed means that the clock on display has not either. -/
lemma minutePart_current (h : Shows config (NotLater r) w) (hlit : w.panel.backlightOn = true)
    (hs : w.panel.screen = .main) (hw : minutePart config w r = some w') :
    Current config w' r := by
  obtain ⟨hfirst, hsecond⟩ := mem_clocks (r := r) (t := r.minuteTimes)
    (by simp [Readings.times, Readings.clockTimes])
  unfold minutePart at hw
  rw [if_pos ⟨hlit, hs⟩, Option.bind_eq_bind, Option.bind_eq_some_iff] at hw
  obtain ⟨minute, hminute, hw⟩ := hw
  split_ifs at hw with hchanged
  · rw [Option.bind_eq_bind, Option.bind_eq_some_iff] at hw
    obtain ⟨clock, hclock, hw⟩ := hw
    obtain rfl := Option.some.inj hw
    exact ⟨fun _ => ⟨_, hsecond, clock, hclock, rfl⟩,
      fun hs' => absurd (hs.symm.trans hs') (by simp)⟩
  · rw [not_not] at hchanged
    obtain rfl := Option.some.inj hw
    unfold Shows at h
    rw [hs] at h
    obtain ⟨u, v, clock, ⟨huv, hv⟩, hu, hclock, hframe⟩ := h
    refine ⟨fun _ => ?_, fun hs' => absurd (hs.symm.trans hs') (by simp)⟩
    have hshown : w.frame.clock = some clock := by rw [hframe]; rfl
    rcases hv with hv | rfl
    · obtain ⟨minuteV, hminuteV⟩ := exists_currentClockMinute hclock
      have hle := currentClockMinute_mono hu hminuteV huv
      have hge := currentClockMinute_mono hminuteV hminute hv
      obtain rfl : minuteV = minute := by omega
      exact ⟨_, hfirst, clock, by rw [← currentClock_eq hminuteV hminute, hclock], hshown⟩
    · exact ⟨_, hsecond, clock, hclock, hshown⟩

lemma dayPart_current {P : ℤ → ℤ → Prop} (h : Shows config P w) (hlit : w.panel.backlightOn = true)
    (hs : w.panel.screen = .calendar) (hw : dayPart config w r = some w') :
    Current config w' r := by
  obtain ⟨hfirst, hsecond⟩ := mem_clocks (r := r) (t := r.dayTimes)
    (by simp [Readings.times, Readings.clockTimes])
  unfold dayPart at hw
  rw [if_pos ⟨hlit, hs⟩, Option.bind_eq_bind, Option.bind_eq_some_iff] at hw
  obtain ⟨day, hday, hw⟩ := hw
  split_ifs at hw with hchanged
  · obtain ⟨day', view, -, hview, rfl⟩ := refreshCalendar_eq_some hw
    exact ⟨fun hs' => absurd (hs.symm.trans hs') (by simp), fun _ => ⟨_, hsecond, view, hview, rfl⟩⟩
  · rw [not_not] at hchanged
    obtain rfl := Option.some.inj hw
    unfold Shows at h
    rw [hs] at h
    obtain ⟨u, view, hdate, hview, hframe⟩ := h
    refine ⟨fun hs' => absurd (hs.symm.trans hs') (by simp),
      fun _ => ⟨_, hfirst, view, ?_, by rw [hframe]; rfl⟩⟩
    rw [← calendarView_eq (hchanged ▸ hdate) hday, hview]

/-- Whatever the iteration does, a lit display is up to date at its end. -/
lemma iterate_current {out : Output} (h : Fresh config (NotLater r) w)
    (hP : ∀ t ∈ r.clockTimes, NotLater r t.first t.second)
    (hw : iterate config w r = some (w', out)) (hlit : w'.panel.backlightOn = true) :
    Current config w' r := by
  obtain ⟨v, u, skip, hv, hu, hrest⟩ := iterate_cases hw
  cases skip with
  | true =>
    rw [if_pos rfl] at hrest
    exact hrest ▸ touchPart_skip hu
  | false =>
    obtain ⟨t, m, ht, hm, hday⟩ := hrest
    have hkept := beforeTouch_kept h hP hv
    simp only [Readings.clockTimes, List.forall_mem_cons] at hP
    obtain ⟨-, -, -, -, htouch, htoast, hminute, -⟩ := hP
    obtain ⟨s, hdu⟩ := touchPart_drawn hkept.fresh htouch hu
    have hfu := hkept.fresh.drawn hdu
    have hft := hfu.drawn (toastPart_drawn hfu htoast ht)
    have hdm := minutePart_drawn hft hminute hm
    have hdw := dayPart_drawn (hft.drawn hdm) hday
    rw [hdw.panel] at hlit
    cases hs : m.panel.screen with
    | main =>
      have hw' : w' = m := by
        unfold dayPart at hday
        rw [if_neg (by simp [hs])] at hday
        exact (Option.some.inj hday).symm
      rw [hw']
      rw [hdm.panel] at hlit hs
      exact minutePart_current hft.shows hlit hs hm
    | calendar => exact dayPart_current hdm.shows hlit hs hday
    | confirm action =>
      rw [← hdw.panel] at hs
      exact ⟨fun hs' => absurd (hs.symm.trans hs') (by simp),
        fun hs' => absurd (hs.symm.trans hs') (by simp)⟩

end Iteration

/-- All readings of the wall clock of a run, from the second drawing at boot on. -/
def clocks (connected : Times) (es : List Event) : List ℤ :=
  connected.clocks ++ es.flatMap fun e => e.1.clocks

section Run
variable {check : OnlineServices.Check} {now : WakeCheck.Instant} {connecting connected : Times}
  {w₀ w w' : World} {es : List Event} {e : Event}

lemma clocks_snoc : clocks connected (es ++ [e]) = clocks connected es ++ e.1.clocks := by
  simp [clocks]

lemma first_le_second {r : Readings} (hsorted : r.clocks.Pairwise (· ≤ ·)) {t : Times}
    (ht : t ∈ r.clockTimes) : t.first ≤ t.second := by
  have hpair := (List.pairwise_flatMap.mp hsorted).1 t (List.mem_append_left _ ht)
  simpa [Times.clocks] using hpair

/-- A place for the clock is before the tick of the minute, or is that tick. -/
lemma notLater_of_sorted {r : Readings} (hsorted : r.clocks.Pairwise (· ≤ ·)) {t : Times}
    (ht : t ∈ r.clockTimes) : NotLater r t.first t.second := by
  refine ⟨first_le_second hsorted ht, ?_⟩
  have hsplit : r.clocks = [r.wifiTimes, r.telegramTimes, r.probeTimes, r.lockTimes, r.touchTimes,
      r.toastTimes].flatMap Times.clocks ++ (r.minuteTimes.clocks ++ r.dayTimes.clocks) := rfl
  rw [hsplit, List.pairwise_append] at hsorted
  have hbefore : t ∈ [r.wifiTimes, r.telegramTimes, r.probeTimes, r.lockTimes, r.touchTimes,
      r.toastTimes] ∨ t = r.minuteTimes := by
    simpa [Readings.clockTimes, or_assoc] using ht
  rcases hbefore with hmem | rfl
  · refine .inl (hsorted.2.2 _ (List.mem_flatMap.mpr ⟨t, hmem, ?_⟩) _ ?_) <;> simp [Times.clocks]
  · exact .inr rfl

/-- While the wall clock does not run backwards, what is on display is not older than what the
recorded minute is from. -/
lemma run_ordered (hstart : start config check now connecting connected = some w₀)
    (hrun : (loop config).Run w₀ es w) (hclocks : (clocks connected es).Pairwise (· ≤ ·)) :
    Fresh config (fun u v => u ≤ v ∧ v ∈ clocks connected es) w := by
  refine hrun.history (J := fun es w => (clocks connected es).Pairwise (· ≤ ·) →
    Fresh config (fun u v => u ≤ v ∧ v ∈ clocks connected es) w) ?_ ?_ hclocks
  · intro es s e t hs ih hsorted
    rw [clocks_snoc] at hsorted ⊢
    obtain ⟨hbefore, hnow, -⟩ := List.pairwise_append.mp hsorted
    have hs' := (ih hbefore).mono (Q := fun u v => u ≤ v ∧ v ∈ clocks connected es ++ e.1.clocks)
      fun u v huv => ⟨huv.1, List.mem_append_left _ huv.2⟩
    refine (iterate_fresh hs' (fun t ht => ?_) hs).1
    exact ⟨first_le_second hnow ht,
      List.mem_append_right _ (mem_clocks (List.mem_append_left _ ht)).2⟩
  · intro hsorted
    have hle : connected.first ≤ connected.second := by simpa [clocks, Times.clocks] using hsorted
    exact (start_fresh (P := fun u v => u ≤ v ∧ v ∈ clocks connected [])
      ⟨hle, by simp [clocks, Times.clocks]⟩ hstart).1

/-- While the wall clock does not run backwards, a lit main screen shows the time, and a lit
calendar the month, of a reading of the latest iteration. -/
theorem time_on_display (hstart : start config check now connecting connected = some w₀)
    (hrun : (loop config).Run w₀ (es ++ [e]) w)
    (hclocks : (clocks connected (es ++ [e])).Pairwise (· ≤ ·))
    (hlit : w.panel.backlightOn = true) :
    (w.panel.screen = .main → ∃ v ∈ e.1.clocks, ∃ clock,
      currentClock config v = some clock ∧ w.frame.clock = some clock) ∧
    (w.panel.screen = .calendar → ∃ v ∈ e.1.clocks, ∃ view,
      calendarView v (config.int .timezoneOffsetHours) = some view ∧
      w.frame.body = .month view) := by
  obtain ⟨u, hrun', hlast⟩ := hrun.append_inv
  cases hlast with
  | cons hs hnil =>
    cases hnil
    rw [clocks_snoc] at hclocks
    obtain ⟨hbefore, hnow, hacross⟩ := List.pairwise_append.mp hclocks
    have hminute : e.1.minuteTimes.first ∈ e.1.clocks :=
      (mem_clocks (by simp [Readings.times, Readings.clockTimes])).1
    have hfresh := (run_ordered hstart hrun' hbefore).mono (Q := NotLater e.1)
      fun _ v huv => ⟨huv.1, .inl (hacross v huv.2 _ hminute)⟩
    exact iterate_current hfresh (fun t ht => notLater_of_sorted hnow ht) hs hlit

end Run

section Evening

/-- A reading of every place at one time, without a touch. -/
def readAt (t : ℤ) : Readings :=
  { pcFound with
    wifiTimes := ⟨t, t⟩, telegramTimes := ⟨t, t⟩, probeTimes := ⟨t, t⟩, lockTimes := ⟨t, t⟩
    touchTimes := ⟨t, t⟩, toastTimes := ⟨t, t⟩, minuteTimes := ⟨t, t⟩, dayTimes := ⟨t, t⟩ }

lemma clocks_readAt (t : ℤ) : (readAt t).clocks = List.replicate 16 t := rfl

lemma exists_readAt : ∃ w₀ u o v o' w o'', eveningStart = some w₀ ∧
    iterate eveningConfig w₀ pcFound = some (u, o) ∧
    iterate eveningConfig u (readAt 1700000030) = some (v, o') ∧
    iterate eveningConfig v (readAt 1700000090) = some (w, o'') ∧
    v.panel = ⟨.main, false, true, 0, none, 0⟩ ∧ w.panel = ⟨.main, false, true, 0, none, 0⟩ := by
  have h : (eveningStart.bind fun w₀ => (iterate eveningConfig w₀ pcFound).bind fun a =>
      (iterate eveningConfig a.1 (readAt 1700000030)).bind fun b =>
        (iterate eveningConfig b.1 (readAt 1700000090)).bind fun c =>
          some (b.1.panel, c.1.panel)) =
      some (⟨.main, false, true, 0, none, 0⟩, ⟨.main, false, true, 0, none, 0⟩) := by decide
  simp only [Option.bind_eq_some_iff, Option.some.injEq, Prod.exists, Prod.mk.injEq] at h
  obtain ⟨w₀, hstart, u, o, hu, v, o', hv, w, o'', hw, hpanel, hpanel'⟩ := h
  exact ⟨w₀, u, o, v, o', w, o'', hstart, hu, hv, hw, hpanel, hpanel'⟩

/-- Three iterations: in the first two it is 7:13, in the last one 7:14. -/
theorem time_on_display_evening : ∃ w₀ v w e e' e'',
    (loop eveningConfig).Run w₀ [e, e'] v ∧ (loop eveningConfig).Run v [e''] w ∧
      v.frame.clock.map ClockStrings.time = some "07:13" ∧
      w.frame.clock.map ClockStrings.time = some "07:14" := by
  obtain ⟨w₀, u, o, v, o', w, o'', hstart, hu, hv, hw, hpanel, hpanel'⟩ := exists_readAt
  have hrun : (loop eveningConfig).Run w₀ ([(pcFound, o)] ++ [(readAt 1700000030, o')]) v :=
    .cons hu (.one hv)
  have hrun' : (loop eveningConfig).Run w₀
      ([(pcFound, o), (readAt 1700000030, o')] ++ [(readAt 1700000090, o'')]) w :=
    .cons hu (.cons hv (.one hw))
  have hsorted : (clocks evening ([(pcFound, o), (readAt 1700000030, o')] ++
      [(readAt 1700000090, o'')])).Pairwise (· ≤ ·) := by
    have hclocks : clocks evening ([(pcFound, o), (readAt 1700000030, o')] ++
        [(readAt 1700000090, o'')]) = List.replicate 18 1700000000 ++
          (List.replicate 16 1700000030 ++ List.replicate 16 1700000090) := rfl
    rw [hclocks]
    decide
  have hsorted' : (clocks evening ([(pcFound, o)] ++ [(readAt 1700000030, o')])).Pairwise
      (· ≤ ·) := by
    rw [clocks_snoc] at hsorted
    exact (List.pairwise_append.mp hsorted).1
  have hlast : (loop eveningConfig).Run v [(readAt 1700000090, o'')] w :=
    System.Run.one hw
  refine ⟨w₀, v, w, _, _, _, hrun, hlast, ?_, ?_⟩
  · obtain ⟨hmain, -⟩ := time_on_display hstart hrun hsorted' (by rw [hpanel])
    obtain ⟨t, ht, clock, hclock, hshown⟩ := hmain (by rw [hpanel])
    rw [clocks_readAt] at ht
    obtain rfl := List.eq_of_mem_replicate ht
    rw [hshown, ← hclock]
    decide
  · obtain ⟨hmain, -⟩ := time_on_display hstart hrun' hsorted (by rw [hpanel'])
    obtain ⟨t, ht, clock, hclock, hshown⟩ := hmain (by rw [hpanel'])
    rw [clocks_readAt] at ht
    obtain rfl := List.eq_of_mem_replicate ht
    rw [hshown, ← hclock]
    decide

end Evening

end PcRemote.MainLoop
