import Mathlib.Algebra.Ring.Nat
import PcRemote.AlertThrottle
import PcRemote.Transition

/-! What the alerts amount to over whole runs of failures: none of them is lost, and the counter
and the instant kept are all that is needed of the history. -/
namespace PcRemote.AlertThrottle
open Transition Transition.System

/-- A failure recorded, with the count it was alerted about. -/
abbrev Recorded := Nat × Option Nat

/-- The failures recorded after the last alert. -/
def pending (events : List Recorded) : List Recorded :=
  events.reverse.takeWhile fun e => e.2.isNone

/-- The instants at which an alert fired. -/
def firings (events : List Recorded) : List Nat :=
  (events.filter fun e => e.2.isSome).map Prod.fst

/-- The counts the alerts were about. -/
def counts (events : List Recorded) : List Nat := events.filterMap Prod.snd

/-- Time does not run backwards, and the failures between two alerts fit the counter. -/
def Fits (events : List Recorded) : Prop :=
  (events.map Prod.fst).Pairwise (· ≤ ·) ∧
    ∀ before e later, events = before ++ e :: later → (pending before).length + 1 < UInt32.size

lemma pending_append_none (events : List Recorded) (now : Nat) :
    (pending (events ++ [(now, none)])).length = (pending events).length + 1 := by
  simp [pending]

lemma pending_append_some (events : List Recorded) (now count : Nat) :
    pending (events ++ [(now, some count)]) = [] := by
  simp [pending]

lemma firings_append (events : List Recorded) (e : Recorded) :
    firings (events ++ [e]) = firings events ++ if e.2.isSome then [e.1] else [] := by
  obtain ⟨now, result⟩ := e
  cases result <;> simp [firings]

lemma Fits.init {events : List Recorded} {e : Recorded} (h : Fits (events ++ [e])) :
    Fits events ∧ (pending events).length + 1 < UInt32.size ∧ ∀ e' ∈ events, e'.1 ≤ e.1 := by
  obtain ⟨hmono, hfew⟩ := h
  rw [List.map_append, List.pairwise_append] at hmono
  refine ⟨⟨hmono.1, fun before e' later heq => ?_⟩, hfew events e [] rfl, fun e' he' => ?_⟩
  · exact hfew before e' (later ++ [e]) (by simp [heq])
  · exact hmono.2.2 e'.1 (List.mem_map_of_mem he') e.1 (by simp)

/-- Enough failures have come together, and the last alert is long enough ago. -/
def Due (a : AlertThrottle) (now : Nat) : Prop :=
  a.threshold ≤ a.failures + 1 ∧ ∀ fired, a.lastFired = some fired → a.interval ≤ now - fired

/-- With room in the counter, an alert fires exactly when it is due. -/
lemma record_of_room (a : AlertThrottle) (now : Nat) (h : a.failures + 1 < UInt32.size) :
    (¬ a.Due now ∧ a.record now = ({ a with failures := a.failures + 1 }, none)) ∨
      (a.Due now ∧ a.record now =
        ({ a with failures := 0, lastFired := some now }, some (a.failures + 1))) := by
  unfold record
  simp only [Nat.mod_eq_of_lt h]
  split_ifs with hthreshold hinterval
  · exact .inl ⟨fun hdue => absurd hthreshold (Nat.not_lt.mpr hdue.1), rfl⟩
  · refine .inl ⟨fun hdue => ?_, rfl⟩
    obtain ⟨fired, hfired, hlt⟩ := (Option.any_eq_true _ _).mp hinterval
    exact absurd (of_decide_eq_true hlt) (Nat.not_lt.mpr (hdue.2 fired hfired))
  · refine .inr ⟨⟨Nat.le_of_not_lt hthreshold, fun fired hfired => ?_⟩, rfl⟩
    rw [hfired] at hinterval
    simpa using hinterval

/-- What a throttle knows of the failures recorded: those pending, and the last alert. Nothing is
lost, no alert is about too few failures, and any two alerts are apart. -/
structure Keeps (threshold interval : Nat) (events : List Recorded) (a : AlertThrottle) : Prop where
  configured : a.threshold = threshold ∧ a.interval = interval
  counted : a.failures = (pending events).length
  fired : a.lastFired = (firings events).getLast?
  conserved : (counts events).sum + a.failures = events.length
  enough : ∀ count ∈ counts events, threshold ≤ count
  apart : (firings events).Pairwise fun t t' => t + interval ≤ t'

lemma Keeps.new (threshold interval : Nat) :
    Keeps threshold interval [] (.new threshold interval) where
  configured := ⟨rfl, rfl⟩
  counted := rfl
  fired := rfl
  conserved := rfl
  enough := by simp [counts]
  apart := .nil

lemma mem_firings {events : List Recorded} {t : Nat} (h : t ∈ firings events) :
    ∃ e ∈ events, e.1 = t := by
  obtain ⟨e, he, rfl⟩ := List.mem_map.mp h
  exact ⟨e, List.mem_of_mem_filter he, rfl⟩

/-- Whoever comes no earlier than the last alert, and is apart from it, is apart from all. -/
lemma Keeps.apart_from {threshold interval : Nat} {events : List Recorded} {a : AlertThrottle}
    (h : Keeps threshold interval events a) {now : Nat} (hlater : ∀ e ∈ events, e.1 ≤ now)
    (hdue : a.Due now) : ∀ t ∈ firings events, t + interval ≤ now := by
  intro t ht
  obtain ⟨last, hlast⟩ : ∃ last, (firings events).getLast? = some last :=
    Option.isSome_iff_exists.mp (by simpa using List.ne_nil_of_mem ht)
  have hfired : last + interval ≤ now := by
    have hsince := hdue.2 last (h.fired.trans hlast)
    obtain ⟨e, he, heq⟩ := mem_firings (List.mem_of_getLast? hlast)
    have hle := hlater e he
    rw [h.configured.2] at hsince
    omega
  obtain ⟨front, hfront⟩ := List.getLast?_eq_some_iff.mp hlast
  have hpair := h.apart
  rw [hfront] at ht hpair
  rcases List.mem_append.mp ht with ht | ht
  · have hpast := (List.pairwise_append.mp hpair).2.2 t ht last (by simp)
    omega
  · obtain rfl := List.mem_singleton.mp ht
    exact hfired

/-- One failure recorded keeps all of it. -/
lemma Keeps.record {threshold interval : Nat} {events : List Recorded} {a : AlertThrottle}
    (h : Keeps threshold interval events a) {now : Nat} (hlater : ∀ e ∈ events, e.1 ≤ now)
    (hroom : (pending events).length + 1 < UInt32.size) :
    Keeps threshold interval (events ++ [(now, (a.record now).2)]) (a.record now).1 := by
  have hconserved := h.conserved
  rw [← h.counted] at hroom
  rcases a.record_of_room now hroom with ⟨-, heq⟩ | ⟨hdue, heq⟩ <;> rw [heq]
  · exact
      { configured := h.configured
        counted := by simp [pending_append_none, h.counted]
        fired := by simp [firings_append, h.fired]
        conserved := by
          simp only [counts, List.filterMap_append] at hconserved ⊢
          simp
          omega
        enough := by simpa [counts, List.filterMap_append] using h.enough
        apart := by simpa [firings_append] using h.apart }
  · exact
      { configured := h.configured
        counted := by simp [pending_append_some]
        fired := by simp [firings_append]
        conserved := by
          simp only [counts, List.filterMap_append] at hconserved ⊢
          simp
          omega
        enough := by
          intro count hcount
          simp only [counts, List.filterMap_append, List.mem_append] at hcount
          rcases hcount with hcount | hcount
          · exact h.enough count hcount
          · obtain rfl : count = a.failures + 1 := by simpa using hcount
            exact h.configured.1 ▸ hdue.1
        apart := by
          rw [firings_append, List.pairwise_append]
          refine ⟨h.apart, by simp, fun t ht t' ht' => ?_⟩
          obtain rfl : t' = now := by simpa using ht'
          exact h.apart_from hlater hdue t ht }

lemma keeps_run {threshold interval : Nat} {events : List Recorded} {a : AlertThrottle}
    (h : Run (component record) (.new threshold interval) events a) (hfits : Fits events) :
    Keeps threshold interval events a := by
  refine component_history (J := fun events a => Fits events → Keeps threshold interval events a)
    ?_ h (fun _ => .new threshold interval) hfits
  intro events a now hkeeps hfits
  obtain ⟨hinit, hroom, hlater⟩ := hfits.init
  exact (hkeeps hinit).record hlater hroom

lemma Fits.of_append {before later : List Recorded} (h : Fits (before ++ later)) : Fits before := by
  refine ⟨?_, fun b e l heq => h.2 b e (l ++ later) (by simp [heq])⟩
  have hmono := h.1
  rw [List.map_append, List.pairwise_append] at hmono
  exact hmono.1

/-- What recording failures comes to: the counts alerted about and the pending counter add up to
the number of failures. Every alert is about enough of them, any two alerts are apart, and an alert
fires exactly when enough failures are pending and the last one is long enough ago. -/
structure LosesNothing (threshold interval : Nat) (instants : List Nat) (events : List Recorded)
    (a : AlertThrottle) : Prop where
  recorded : events.map Prod.fst = instants
  conserved : (counts events).sum + a.failures = instants.length
  enough : ∀ count ∈ counts events, threshold ≤ count
  apart : (firings events).Pairwise fun t t' => t + interval ≤ t'
  about : ∀ before now result later, events = before ++ (now, result) :: later →
    result = some ((pending before).length + 1) ∨ result = none
  fires : ∀ before now result later, events = before ++ (now, result) :: later →
    (result ≠ none ↔ threshold ≤ (pending before).length + 1 ∧
      ∀ fired, (firings before).getLast? = some fired → fired + interval ≤ now)

/-- A failure in the middle of a run, seen from the throttle that recorded it. -/
lemma exists_of_recorded {threshold interval : Nat} {instants : List Nat}
    (hfits : Fits (feed record (.new threshold interval) instants).1) {before later : List Recorded}
    {now : Nat} {result : Option Nat}
    (heq : (feed record (.new threshold interval) instants).1 = before ++ (now, result) :: later) :
    ∃ a : AlertThrottle, Keeps threshold interval before a ∧ a.failures + 1 < UInt32.size ∧
      (∀ e ∈ before, e.1 ≤ now) ∧ result = (a.record now).2 := by
  have hrun := feed_run record (.new threshold interval) instants
  rw [heq] at hrun
  rw [heq, List.append_cons] at hfits
  obtain ⟨hinit, hroom, hlater⟩ := hfits.of_append.init
  obtain ⟨a, hbefore, hresult⟩ := component_split hrun
  have hkeeps := keeps_run hbefore hinit
  rw [← hkeeps.counted] at hroom
  exact ⟨a, hkeeps, hroom, hlater, hresult⟩

/-- An alert is due when enough failures are pending and the last alert is long enough ago. -/
lemma Keeps.due_iff {threshold interval : Nat} {events : List Recorded} {a : AlertThrottle}
    (h : Keeps threshold interval events a) {now : Nat} (hlater : ∀ e ∈ events, e.1 ≤ now) :
    a.Due now ↔ threshold ≤ (pending events).length + 1 ∧
      ∀ fired, (firings events).getLast? = some fired → fired + interval ≤ now := by
  unfold Due
  rw [h.configured.1, h.configured.2, h.counted, h.fired]
  refine and_congr_right fun _ => forall₂_congr fun fired hfired => ?_
  obtain ⟨e, he, rfl⟩ := mem_firings (List.mem_of_getLast? hfired)
  have hle : e.1 ≤ now := hlater e he
  omega

/-- Recording loses nothing, whatever the instants of the failures are. -/
theorem alert_throttle_loses_nothing (threshold interval : Nat) (instants : List Nat)
    (hfits : Fits (feed record (.new threshold interval) instants).1) :
    LosesNothing threshold interval instants (feed record (.new threshold interval) instants).1
      (feed record (.new threshold interval) instants).2 := by
  have hinputs : (feed record (.new threshold interval) instants).1.map Prod.fst = instants :=
    feed_inputs _ _ _
  have hkeeps := keeps_run (feed_run record (.new threshold interval) instants) hfits
  refine ⟨hinputs, ?_, hkeeps.enough, hkeeps.apart, ?_, ?_⟩
  · rw [hkeeps.conserved, ← List.length_map, hinputs]
  · intro before now result later heq
    obtain ⟨a, hkept, hroom, -, rfl⟩ := exists_of_recorded hfits heq
    rw [← hkept.counted]
    rcases a.record_of_room now hroom with ⟨-, hrecord⟩ | ⟨-, hrecord⟩ <;> rw [hrecord]
    · exact .inr rfl
    · exact .inl rfl
  · intro before now result later heq
    obtain ⟨a, hkept, hroom, hlater, rfl⟩ := exists_of_recorded hfits heq
    rw [← hkept.due_iff hlater]
    rcases a.record_of_room now hroom with ⟨hnot, hrecord⟩ | ⟨hdue, hrecord⟩ <;> rw [hrecord]
    · simp [hnot]
    · simp [hdue]

/-- Short runs fit the counter whatever fires. -/
lemma fits_of_short {events : List Recorded} (hmono : (events.map Prod.fst).Pairwise (· ≤ ·))
    (hshort : events.length < UInt32.size) : Fits events := by
  refine ⟨hmono, fun before e later heq => ?_⟩
  have hpending : (pending before).length ≤ before.length := by
    simpa [pending] using (List.takeWhile_sublist (l := before.reverse) _).length_le
  rw [heq, List.length_append, List.length_cons] at hshort
  omega

/-- A threshold of three and an interval of twenty: the failures at 3, 4 and 5 are held back until
the one at 30. -/
theorem alert_throttle_loses_nothing_held_back :
    let run := feed record (.new 3 20) [0, 1, 2, 3, 4, 5, 30, 31]
    (counts run.1).sum + run.2.failures = 8 ∧ counts run.1 = [3, 4] :=
  ⟨(alert_throttle_loses_nothing 3 20 [0, 1, 2, 3, 4, 5, 30, 31]
    (fits_of_short (by decide) (by decide))).conserved, by decide⟩

end PcRemote.AlertThrottle
