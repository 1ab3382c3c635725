import PcRemote.Transition
import PcRemote.VersionOrder

/-! The notices that a newer firmware is offered: each version is announced once. -/
namespace PcRemote.FirmwareVersion
open Transition Transition.System

structure FirmwareNotice where
  lastNotified : Option String
  deriving DecidableEq, Repr

def FirmwareNotice.default : FirmwareNotice := ⟨none⟩

def FirmwareNotice.observe (current : String) (n : FirmwareNotice)
    (verifiedVersion : Option String) : FirmwareNotice × Bool :=
  match verifiedVersion with
  | none => (n, false)
  | some offered =>
      if compareVersions current offered ≠ .newer then (n, false)
      else
        match n.lastNotified with
        | none => (⟨some offered⟩, true)
        | some previous =>
            if compareVersions previous offered ≠ .newer then (n, false)
            else (⟨some offered⟩, true)

/-- An observation, with whether it is notified. -/
abbrev Observed := Option String × Bool

/-- The versions notified. -/
def notified (events : List Observed) : List String :=
  (events.filter Prod.snd).filterMap Prod.fst

/-- An observation is notified when it offers a version newer than the running one and than the
last one notified; nothing else changes anything. -/
lemma FirmwareNotice.observe_cases (current : String) (n : FirmwareNotice)
    (verifiedVersion : Option String) :
    (n.observe current verifiedVersion = (n, false) ∧ ∀ offered, verifiedVersion = some offered →
      Newer current offered → ∃ previous, n.lastNotified = some previous ∧
        ¬ Newer previous offered) ∨
    ∃ offered, verifiedVersion = some offered ∧ Newer current offered ∧
      (∀ previous, n.lastNotified = some previous → Newer previous offered) ∧
      n.observe current verifiedVersion = (⟨some offered⟩, true) := by
  cases verifiedVersion with
  | none => exact .inl ⟨rfl, by simp⟩
  | some offered =>
    by_cases hcurrent : Newer current offered
    · cases hlast : n.lastNotified with
      | none =>
        refine .inr ⟨offered, rfl, hcurrent, by simp, ?_⟩
        simp [observe, show compareVersions current offered = .newer from hcurrent, hlast]
      | some previous =>
        by_cases hprevious : Newer previous offered
        · refine .inr ⟨offered, rfl, hcurrent, by simpa using hprevious, ?_⟩
          simp [observe, show compareVersions current offered = .newer from hcurrent, hlast,
            show compareVersions previous offered = .newer from hprevious]
        · refine .inl ⟨?_, fun _ _ _ => ⟨previous, rfl, by simp_all⟩⟩
          simp [observe, hlast, show ¬ compareVersions previous offered = .newer from hprevious]
    · refine .inl ⟨?_, fun _ heq hnewer => absurd (Option.some.inj heq ▸ hnewer) hcurrent⟩
      simp [observe, show ¬ compareVersions current offered = .newer from hcurrent]

/-- The version is newer than the running one, and than all versions observed before that were. -/
def Exceeds (current : String) (observed : List (Option String)) (version : String) : Prop :=
  Newer current version ∧
    ∀ earlier, some earlier ∈ observed → Newer current earlier → Newer earlier version

lemma exceeds_iff {current version : String} {observed : List (Option String)} :
    Exceeds current observed version ↔
      ∃ cur curSuffix numbers suffix, IsVersion current cur curSuffix ∧
        IsVersion version numbers suffix ∧ lexNumbers cur < lexNumbers numbers ∧
        ∀ earlier t s, some earlier ∈ observed → IsVersion earlier t s →
          lexNumbers cur < lexNumbers t → lexNumbers t < lexNumbers numbers := by
  constructor
  · rintro ⟨hnewer, hall⟩
    obtain ⟨⟨cur, curSuffix, hcur⟩, numbers, suffix, hversion⟩ := hnewer.parses
    refine ⟨cur, curSuffix, numbers, suffix, hcur, hversion,
      (newer_iff hcur hversion).mp hnewer, ?_⟩
    intro earlier t s hmem hearlier hlt
    exact (newer_iff hearlier hversion).mp
      (hall earlier hmem ((newer_iff hcur hearlier).mpr hlt))
  · rintro ⟨cur, curSuffix, numbers, suffix, hcur, hversion, hlt, hall⟩
    refine ⟨(newer_iff hcur hversion).mpr hlt, fun earlier hmem hnewer => ?_⟩
    obtain ⟨-, t, s, hearlier⟩ := hnewer.parses
    exact (newer_iff hearlier hversion).mpr
      (hall earlier t s hmem hearlier ((newer_iff hcur hearlier).mp hnewer))

/-- The version kept is the greatest of those observed that are newer than the running one. -/
structure Greatest (current : String) (observed : List (Option String)) (n : FirmwareNotice) :
    Prop where
  observed_newer : ∀ version, n.lastNotified = some version →
    some version ∈ observed ∧ Newer current version
  exceeded_by_none : ∀ version, some version ∈ observed → Newer current version →
    ∃ greatest, n.lastNotified = some greatest ∧ ¬ Newer greatest version

/-- What is newer than a version that is not newer than another is newer than the other. -/
lemma Newer.of_not_newer {earlier greatest version : String} (h : ¬ Newer greatest earlier)
    (hearlier : Parses earlier) (hversion : Newer greatest version) : Newer earlier version := by
  obtain ⟨te, se, he⟩ := hearlier
  obtain ⟨⟨tg, sg, hg⟩, tv, sv, hv⟩ := hversion.parses
  rw [newer_iff hg he, not_lt] at h
  exact (newer_iff he hv).mpr (h.trans_lt ((newer_iff hg hv).mp hversion))

/-- With the greatest version kept, an observation is notified exactly when it exceeds all. -/
lemma Greatest.notifies_iff {current : String} {observed : List (Option String)}
    {n : FirmwareNotice} (h : Greatest current observed n) (verifiedVersion : Option String) :
    (n.observe current verifiedVersion).2 = true ↔
      ∃ version, verifiedVersion = some version ∧ Exceeds current observed version := by
  constructor
  · intro hfires
    rcases n.observe_cases current verifiedVersion with
      ⟨heq, -⟩ | ⟨version, hversion, hnewer, hlast, -⟩
    · simp [heq] at hfires
    · refine ⟨version, hversion, hnewer, fun earlier hmem hearlier => ?_⟩
      obtain ⟨greatest, hgreatest, hnot⟩ := h.exceeded_by_none earlier hmem hearlier
      exact .of_not_newer hnot hearlier.parses.2 (hlast greatest hgreatest)
  · rintro ⟨version, rfl, hnewer, hall⟩
    rcases n.observe_cases current (some version) with ⟨-, hquiet⟩ | ⟨version, -, -, -, heq⟩
    · obtain ⟨previous, hprevious, hnot⟩ := hquiet version rfl hnewer
      obtain ⟨hmem, hpast⟩ := h.observed_newer previous hprevious
      exact absurd (hall previous hmem hpast) hnot
    · rw [heq]

/-- An observation keeps the greatest version. -/
lemma Greatest.observe {current : String} {observed : List (Option String)} {n : FirmwareNotice}
    (h : Greatest current observed n) (verifiedVersion : Option String) :
    Greatest current (observed ++ [verifiedVersion]) (n.observe current verifiedVersion).1 := by
  rcases n.observe_cases current verifiedVersion with
    ⟨heq, hquiet⟩ | ⟨version, rfl, hnewer, hlast, heq⟩
  · rw [heq]
    refine ⟨fun version hversion => ?_, fun version hmem hnewer => ?_⟩
    · exact ⟨List.mem_append_left _ (h.observed_newer version hversion).1,
        (h.observed_newer version hversion).2⟩
    · rcases List.mem_append.mp hmem with hmem | hmem
      · exact h.exceeded_by_none version hmem hnewer
      · exact hquiet version (List.mem_singleton.mp hmem).symm hnewer
  · rw [heq]
    refine ⟨fun version' hversion' => ?_, fun earlier hmem hearlier => ⟨version, rfl, ?_⟩⟩
    · obtain rfl : version = version' := by simpa using hversion'
      exact ⟨by simp, hnewer⟩
    · rcases List.mem_append.mp hmem with hmem | hmem
      · obtain ⟨greatest, hgreatest, hnot⟩ := h.exceeded_by_none earlier hmem hearlier
        exact fun hback => hnot ((hlast greatest hgreatest).trans hback)
      · obtain rfl : earlier = version := by simpa using hmem
        exact not_newer_self earlier

lemma greatest_run {current : String} {events : List Observed} {n : FirmwareNotice}
    (h : Run (component (FirmwareNotice.observe current)) .default events n) :
    Greatest current (events.map Prod.fst) n := by
  refine component_history (J := fun events n => Greatest current (events.map Prod.fst) n) ?_ h
    ⟨by simp [FirmwareNotice.default], by simp⟩
  intro events n verifiedVersion hn
  rw [List.map_append]
  exact hn.observe verifiedVersion

lemma notified_append (events : List Observed) (e : Observed) :
    notified (events ++ [e]) = notified events ++ if e.2 then e.1.toList else [] := by
  obtain ⟨verifiedVersion, notify⟩ := e
  cases verifiedVersion <;> cases notify <;> simp [notified]

/-- Each notice is about a newer version than all notices before it. -/
lemma notified_run {current : String} {events : List Observed} {n : FirmwareNotice}
    (h : Run (component (FirmwareNotice.observe current)) .default events n) :
    (notified events).Pairwise Newer ∧ ∀ version ∈ notified events, ∃ last,
      n.lastNotified = some last ∧ (version = last ∨ Newer version last) := by
  refine component_history (J := fun events n => (notified events).Pairwise Newer ∧
    ∀ version ∈ notified events, ∃ last,
      n.lastNotified = some last ∧ (version = last ∨ Newer version last)) ?_ h (by simp [notified])
  rintro events n verifiedVersion ⟨hpair, hlast⟩
  rw [notified_append]
  rcases n.observe_cases current verifiedVersion with ⟨heq, -⟩ | ⟨version, rfl, -, hgreater, heq⟩
  · simpa [heq] using ⟨hpair, hlast⟩
  · have hpast : ∀ earlier ∈ notified events, Newer earlier version := by
      intro earlier hmem
      obtain ⟨last, heqLast, hor⟩ := hlast earlier hmem
      rcases hor with rfl | hnewer
      · exact hgreater _ heqLast
      · exact hnewer.trans (hgreater _ heqLast)
    simp only [heq, if_true, Option.toList_some]
    refine ⟨List.pairwise_append.mpr ⟨hpair, by simp, by simpa using hpast⟩, fun earlier hmem => ?_⟩
    refine ⟨version, rfl, ?_⟩
    rcases List.mem_append.mp hmem with hmem | hmem
    · exact .inr (hpast earlier hmem)
    · exact .inl (by simpa using hmem)

/-- What observing a list of versions comes to: one is notified exactly when its numbers exceed those
of the running version and of all newer versions observed before. The versions notified increase,
none is notified twice, and an observation that is not notified changes nothing. -/
structure Increases (current : String) (versions : List (Option String))
    (events : List Observed) : Prop where
  observed : events.map Prod.fst = versions
  notifies : ∀ before verifiedVersion notify later,
    events = before ++ (verifiedVersion, notify) :: later →
    (notify = true ↔ ∃ version cur curSuffix numbers suffix, verifiedVersion = some version ∧
      IsVersion current cur curSuffix ∧ IsVersion version numbers suffix ∧
      lexNumbers cur < lexNumbers numbers ∧
      ∀ earlier t s, some earlier ∈ before.map Prod.fst → IsVersion earlier t s →
        lexNumbers cur < lexNumbers t → lexNumbers t < lexNumbers numbers)
  increasing : (notified events).Pairwise Newer
  once : (notified events).Nodup
  unchanged : ∀ (n : FirmwareNotice) (verifiedVersion : Option String),
    (n.observe current verifiedVersion).2 = false → (n.observe current verifiedVersion).1 = n

/-- Notices increase over any history of observations. -/
theorem firmware_notices_increase (current : String) (versions : List (Option String)) :
    Increases current versions (feed (FirmwareNotice.observe current) .default versions).1 := by
  have hrun := feed_run (FirmwareNotice.observe current) .default versions
  have hpair := (notified_run hrun).1
  refine ⟨feed_inputs _ _ _, fun before verifiedVersion notify later heq => ?_, hpair,
    hpair.imp Newer.ne, fun n verifiedVersion hquiet => ?_⟩
  · rw [heq] at hrun
    obtain ⟨n, hbefore, rfl⟩ := component_split hrun
    simp only [(greatest_run hbefore).notifies_iff verifiedVersion, exceeds_iff]
    constructor
    · rintro ⟨version, hversion, cur, curSuffix, numbers, suffix, hrest⟩
      exact ⟨version, cur, curSuffix, numbers, suffix, hversion, hrest⟩
    · rintro ⟨version, cur, curSuffix, numbers, suffix, hversion, hrest⟩
      exact ⟨version, hversion, cur, curSuffix, numbers, suffix, hrest⟩
  · rcases n.observe_cases current verifiedVersion with ⟨heq, -⟩ | ⟨version, -, -, -, heq⟩
    · rw [heq]
    · simp [heq] at hquiet

end PcRemote.FirmwareVersion
