import PcRemote.StatusTarget
import PcRemote.Transition

/-! The addresses that the STATUS check tries. They are kept from one check to the next, and a name
is looked up only when the configured text has become that name. -/
namespace PcRemote.StatusCache
open ConfigValidation SocketText Text Transition

section Changes
variable {α : Type*} [DecidableEq α]

/-- The elements that differ from the one before them. -/
def changes : Option α → List α → List α
  | _, [] => []
  | prev, a :: as => (if prev = some a then [] else [a]) ++ changes (some a) as

lemma changes_snoc (prev : Option α) (as : List α) (a : α) :
    changes prev (as ++ [a]) =
      changes prev as ++ if as.getLast?.or prev = some a then [] else [a] := by
  induction as generalizing prev with
  | nil =>
    rw [List.nil_append, changes, changes, changes, List.append_nil, List.nil_append]
    rfl
  | cons b bs ih =>
    have hlast : (b :: bs).getLast?.or prev = bs.getLast?.or (some b) := by
      cases bs with
      | nil => rfl
      | cons c cs => simp [List.getLast?_eq_some_getLast]
    rw [List.cons_append, changes, ih, changes, hlast, List.append_assoc]

end Changes

/-- A question to the resolver. -/
structure Lookup where
  name : String
  answer : List SocketAddr

/-- What a check finds: the text that the settings make up, what the resolver would answer, and
which addresses are reachable. -/
structure Pass where
  text : String
  resolver : String → List SocketAddr
  reachable : SocketAddr → Bool

structure Cache where
  text : String
  targets : List SocketAddr
  dnsTried : Bool

structure Checked where
  lookups : List Lookup
  targets : List SocketAddr
  online : Bool

/-- Asking the resolver, with a note of it. -/
def lookUp (resolver : String → List SocketAddr) (name : String) :
    StateM (List Lookup) (List SocketAddr) := do
  modify (· ++ [⟨name, resolver name⟩])
  return resolver name

def resolveStatusAddrOnce (resolver : String → List SocketAddr) (addrText : String) :
    List SocketAddr × List Lookup :=
  (resolveStatusAddrWith addrText (lookUp resolver)).run []

def checkPcOnlineCached (addrs : List SocketAddr) (probe : SocketAddr → Bool) : Bool :=
  addrs.any probe

/-- At boot a name is looked up only over a link that is up. -/
def boot (wifiConnected : Bool) (p : Pass) : Cache × List Lookup :=
  if wifiConnected then
    let (targets, lookups) := resolveStatusAddrOnce p.resolver p.text
    (⟨p.text, targets, wifiConnected⟩, lookups)
  else (⟨p.text, (parseStatusSocketAddr p.text).toList, wifiConnected⟩, [])

def check (c : Cache) (p : Pass) : Cache × Checked :=
  let c := if p.text ≠ c.text then
    ⟨p.text, (parseStatusSocketAddr p.text).toList, false⟩ else c
  let (c, lookups) := if c.targets.isEmpty && !c.dnsTried then
    let (targets, lookups) := resolveStatusAddrOnce p.resolver c.text
    ({ c with dnsTried := true, targets := targets }, lookups) else (c, [])
  (c, ⟨lookups, c.targets, checkPcOnlineCached c.targets p.reachable⟩)

lemma resolveStatusAddrOnce_of_parse {resolver : String → List SocketAddr} {addrText : String}
    {addr : SocketAddr} (h : parseStatusSocketAddr addrText = some addr) :
    resolveStatusAddrOnce resolver addrText = ([addr], []) := by
  unfold resolveStatusAddrOnce
  rw [resolveStatusAddrWith_of_parse h]
  rfl

lemma resolveStatusAddrOnce_of_name {resolver : String → List SocketAddr} {addrText : String}
    (h : parseStatusSocketAddr addrText = none) :
    resolveStatusAddrOnce resolver addrText =
      (resolver (trim addrText), [⟨trim addrText, resolver (trim addrText)⟩]) := by
  unfold parseStatusSocketAddr at h
  unfold resolveStatusAddrOnce resolveStatusAddrWith
  rw [h]
  rfl

def isName (addrText : String) : Bool := (parseStatusSocketAddr addrText).isNone

/-- What the cache is after the texts that have been looked at, given what was looked up. -/
structure Follows (seen : List String) (lookups : List Lookup) (c : Cache) : Prop where
  asked : lookups.map Lookup.name = ((changes none seen).filter isName).map trim
  text : ∀ t, seen.getLast? = some t → c.text = t
  address : ∀ addr, parseStatusSocketAddr c.text = some addr → c.targets = [addr]
  fresh : seen = [] → c.dnsTried = false ∧ c.targets = (parseStatusSocketAddr c.text).toList
  name : seen ≠ [] → parseStatusSocketAddr c.text = none → c.dnsTried = true ∧
    ∃ l, lookups.getLast? = some l ∧ l.name = trim c.text ∧ c.targets = l.answer

lemma follows_address {seen : List String} {lookups : List Lookup} {t : String}
    {addr : SocketAddr} (hparse : parseStatusSocketAddr t = some addr) {dnsTried : Bool}
    (h : lookups.map Lookup.name = ((changes none seen).filter isName).map trim) :
    Follows (seen ++ [t]) lookups ⟨t, [addr], dnsTried⟩ where
  asked := by
    rw [h, changes_snoc]
    split_ifs
    · rw [List.append_nil]
    · simp [isName, hparse]
  text t' ht' := by simpa using ht'
  address addr' haddr := by
    have haddr : parseStatusSocketAddr t = some addr' := haddr
    rw [hparse, Option.some.injEq] at haddr
    rw [haddr]
  fresh hnil := by simp at hnil
  name _ hnone := by
    have hnone : parseStatusSocketAddr t = none := hnone
    simp [hparse] at hnone

lemma follows_name {seen : List String} {lookups : List Lookup} {t : String}
    (hparse : parseStatusSocketAddr t = none) (hnew : seen.getLast? ≠ some t)
    (h : lookups.map Lookup.name = ((changes none seen).filter isName).map trim)
    (answer : List SocketAddr) :
    Follows (seen ++ [t]) (lookups ++ [⟨trim t, answer⟩]) ⟨t, answer, true⟩ where
  asked := by
    rw [List.map_append, h, changes_snoc, Option.or_none, if_neg hnew]
    simp [isName, hparse]
  text t' ht' := by simpa using ht'
  address addr haddr := by
    have haddr : parseStatusSocketAddr t = some addr := haddr
    simp [hparse] at haddr
  fresh hnil := by simp at hnil
  name _ _ := ⟨rfl, _, List.getLast?_concat, rfl, rfl⟩

lemma follows_nothing {t : String} {targets : List SocketAddr}
    (h : (parseStatusSocketAddr t).toList = targets) : Follows [] [] ⟨t, targets, false⟩ where
  asked := rfl
  text _ ht := by simp at ht
  address addr haddr := by
    have haddr : parseStatusSocketAddr t = some addr := haddr
    rw [haddr] at h
    exact h.symm
  fresh _ := ⟨rfl, h.symm⟩
  name hne := absurd rfl hne

lemma follows_boot (wifiConnected : Bool) (p : Pass) :
    Follows (if wifiConnected then [p.text] else []) (boot wifiConnected p).2
      (boot wifiConnected p).1 := by
  unfold boot
  cases wifiConnected with
  | false => exact follows_nothing rfl
  | true =>
    cases hparse : parseStatusSocketAddr p.text with
    | some addr =>
      rw [resolveStatusAddrOnce_of_parse hparse]
      have hfollows : Follows ([] ++ [p.text]) [] ⟨p.text, [addr], true⟩ :=
        follows_address hparse rfl
      exact hfollows
    | none =>
      rw [resolveStatusAddrOnce_of_name hparse]
      have hfollows : ∀ answer, Follows ([] ++ [p.text]) ([] ++ [⟨trim p.text, answer⟩])
          ⟨p.text, answer, true⟩ :=
        follows_name hparse (by simp) rfl
      exact hfollows _

/-- A text that the cache has already followed leaves it as it is. -/
lemma check_of_known {seen : List String} {lookups : List Lookup} {c : Cache} {p : Pass}
    (h : Follows seen lookups c) (hknown : seen.getLast? = some p.text) :
    check c p = (c, ⟨[], c.targets, checkPcOnlineCached c.targets p.reachable⟩) := by
  have hsame : ¬ p.text ≠ c.text := not_not.mpr (h.text _ hknown).symm
  have hne : seen ≠ [] := by
    rintro rfl
    simp at hknown
  have hkept : (c.targets.isEmpty && !c.dnsTried) = false := by
    cases hparse : parseStatusSocketAddr c.text with
    | some addr => simp [h.address addr hparse]
    | none => simp [(h.name hne hparse).1]
  simp only [check, if_neg hsame, hkept, Bool.false_eq_true, if_false]

/-- A text that is new to it is parsed, and looked up if it is a name. -/
lemma check_of_new {seen : List String} {lookups : List Lookup} {c : Cache} {p : Pass}
    (h : Follows seen lookups c) (hnew : seen.getLast? ≠ some p.text) :
    check c p =
      match parseStatusSocketAddr p.text with
      | some addr =>
        (⟨p.text, [addr], false⟩, ⟨[], [addr], checkPcOnlineCached [addr] p.reachable⟩)
      | none =>
        let targets := p.resolver (trim p.text)
        (⟨p.text, targets, true⟩,
          ⟨[⟨trim p.text, targets⟩], targets, checkPcOnlineCached targets p.reachable⟩) := by
  have hstart : (if p.text ≠ c.text then
      (⟨p.text, (parseStatusSocketAddr p.text).toList, false⟩ : Cache) else c) =
        ⟨p.text, (parseStatusSocketAddr p.text).toList, false⟩ := by
    split_ifs with htext
    · rfl
    · -- the same text is new only to a cache that has not yet checked anything
      have hsame := not_not.mp htext
      cases seen with
      | nil =>
        obtain ⟨hfresh, htargets⟩ := h.fresh rfl
        rw [hsame, ← htargets, ← hfresh]
      | cons t ts =>
        have hlast : (t :: ts).getLast? = some ((t :: ts).getLast (List.cons_ne_nil t ts)) :=
          List.getLast?_eq_some_getLast _
        exact absurd (hlast.trans (congrArg some ((h.text _ hlast).symm.trans hsame.symm))) hnew
  simp only [check, hstart]
  cases hparse : parseStatusSocketAddr p.text with
  | some addr => rfl
  | none =>
    rw [resolveStatusAddrOnce_of_name hparse]
    rfl

lemma Follows.check {seen : List String} {lookups : List Lookup} {c : Cache}
    (h : Follows seen lookups c) (p : Pass) :
    Follows (seen ++ [p.text]) (lookups ++ (check c p).2.lookups) (StatusCache.check c p).1 := by
  by_cases hknown : seen.getLast? = some p.text
  · rw [check_of_known h hknown, List.append_nil]
    have hlast : (seen ++ [p.text]).getLast? = some p.text := List.getLast?_concat
    have hne : seen ≠ [] := by
      rintro rfl
      simp at hknown
    refine ⟨?_, fun t ht => ?_, h.address, fun hnil => by simp at hnil, fun _ => h.name hne⟩
    · rw [h.asked, changes_snoc, Option.or_none, if_pos hknown, List.append_nil]
    · rw [hlast] at ht
      exact h.text t (hknown.trans ht)
  · rw [check_of_new h hknown]
    cases hparse : parseStatusSocketAddr p.text with
    | some addr =>
      rw [List.append_nil]
      exact follows_address hparse h.asked
    | none => exact follows_name hparse hknown h.asked _

def bootSeen (wifiConnected : Bool) (first : Pass) : List String :=
  if wifiConnected then [first.text] else []

lemma follows_feed (wifiConnected : Bool) (first : Pass) {c : Cache}
    {es : List (Pass × Checked)} (h : (component check).Run (boot wifiConnected first).1 es c) :
    Follows (bootSeen wifiConnected first ++ es.map fun e => e.1.text)
      ((boot wifiConnected first).2 ++ es.flatMap fun e => e.2.lookups) c := by
  refine component_history (J := fun es c =>
    Follows (bootSeen wifiConnected first ++ es.map fun e => e.1.text)
      ((boot wifiConnected first).2 ++ es.flatMap fun e => e.2.lookups) c) ?_ h ?_
  · intro es c p hc
    simpa using hc.check p
  · simpa [bootSeen] using follows_boot wifiConnected first

lemma Follows.checked {seen : List String} {lookups : List Lookup} {c : Cache}
    (h : Follows seen lookups c) (p : Pass) :
    (StatusCache.check c p).2.targets = (StatusCache.check c p).1.targets ∧
      (StatusCache.check c p).2.online =
        (StatusCache.check c p).1.targets.any p.reachable := by
  by_cases hknown : seen.getLast? = some p.text
  · rw [check_of_known h hknown]
    exact ⟨rfl, rfl⟩
  · rw [check_of_new h hknown]
    cases hparse : parseStatusSocketAddr p.text with
    | some addr => exact ⟨rfl, rfl⟩
    | none => exact ⟨rfl, rfl⟩

lemma mem_of_mem_changes {prev : Option String} {texts : List String} {t : String}
    (h : t ∈ changes prev texts) : t ∈ texts := by
  induction texts generalizing prev with
  | nil => exact h
  | cons a as ih =>
    rw [changes, List.mem_append] at h
    rcases h with h | h
    · split_ifs at h with hprev
      · cases h
      · exact List.mem_singleton.mp h ▸ List.mem_cons_self
    · exact List.mem_cons_of_mem a (ih h)

lemma not_isName_composeStatusAddr {input ip : String} (h : validateIpv4 input = .ok ip)
    (port : UInt16) : isName (composeStatusAddr ip port.toNat) = false := by
  obtain ⟨hip, rfl⟩ := validateIpv4_eq_ok.mp h
  obtain ⟨addr, hparse⟩ := (isIpv4_iff _).mp hip
  have hread := parseSocketAddr_v4 hparse port
  rw [isName, parseStatusSocketAddr, trim_composeStatusAddr hip, hread]
  rfl

/-- Names are looked up exactly where the text becomes one, each once, in their order, and never
while every text is made from a validated address; every check is about the addresses of the text
that the settings make up at that time, those of a name as they were last looked up. -/
theorem names_looked_up_once (wifiConnected : Bool) (first : Pass) (passes : List Pass) :
    let b := boot wifiConnected first
    let r := feed check b.1 passes
    let texts := bootSeen wifiConnected first ++ passes.map Pass.text
    let looked := b.2 ++ r.1.flatMap fun e => e.2.lookups
    looked.map Lookup.name = ((changes none texts).filter isName).map trim ∧
    ((∀ t ∈ texts, ∃ input ip port, validateIpv4 input = .ok ip ∧
      t = composeStatusAddr ip (port : UInt16).toNat) → looked = []) ∧
    ∀ pre p o post, r.1 = pre ++ (p, o) :: post →
      o.online = o.targets.any p.reachable ∧
      (∀ addr, parseStatusSocketAddr p.text = some addr → o.targets = [addr]) ∧
      (parseStatusSocketAddr p.text = none → ∃ l,
        (b.2 ++ (pre.flatMap fun e => e.2.lookups) ++ o.lookups).getLast? = some l ∧
        l.name = trim p.text ∧ o.targets = l.answer) := by
  intro b r texts looked
  have hrun : (component check).Run b.1 r.1 r.2 := feed_run check b.1 passes
  have hasked : looked.map Lookup.name = ((changes none texts).filter isName).map trim := by
    have htexts : (r.1.map fun e => e.1.text) = passes.map Pass.text := by
      rw [← feed_inputs check b.1 passes, List.map_map]
      rfl
    have hall := (follows_feed wifiConnected first hrun).asked
    rwa [htexts] at hall
  refine ⟨hasked, fun hvalid => ?_, fun pre p o post hr => ?_⟩
  · have hnone : (changes none texts).filter isName = [] := by
      refine List.filter_eq_nil_iff.mpr fun t ht => ?_
      obtain ⟨input, ip, port, hip, rfl⟩ := hvalid t (mem_of_mem_changes ht)
      rw [not_isName_composeStatusAddr hip port]
      exact Bool.false_ne_true
    rw [hnone] at hasked
    exact List.map_eq_nil_iff.mp hasked
  · rw [hr] at hrun
    obtain ⟨c, hpre, rfl⟩ := component_split hrun
    have hc := follows_feed wifiConnected first hpre
    have hnext := hc.check p
    obtain ⟨htargets, honline⟩ := hc.checked p
    have htext : (check c p).1.text = p.text := hnext.text _ List.getLast?_concat
    refine ⟨by rw [honline, htargets], fun addr haddr => ?_, fun hnone => ?_⟩
    · rw [htargets]
      exact hnext.address addr (htext ▸ haddr)
    · obtain ⟨-, l, hlast, hname, hanswer⟩ := hnext.name (by simp) (htext ▸ hnone)
      exact ⟨l, hlast, htext ▸ hname, htargets.trans hanswer⟩

end PcRemote.StatusCache
