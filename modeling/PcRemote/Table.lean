import Mathlib.Data.List.AList

/-! Tables holding one value per key, on top of Mathlib's association lists: their size,
and the removal of every entry whose value fails a test. -/
namespace PcRemote

abbrev Table (α β : Type*) := AList (fun _ : α => β)

namespace Table
variable {α β : Type*}

def size (m : Table α β) : ℕ := m.entries.length

/-- Keep exactly the entries whose value passes the test. -/
def retain (p : β → Bool) (m : Table α β) : Table α β :=
  ⟨m.entries.filter (fun e => p e.2), m.nodupKeys.sublist List.filter_sublist⟩

lemma retain_eq_empty {p : β → Bool} {m : Table α β} (h : ∀ e ∈ m.entries, ¬ p e.2) :
    retain p m = ∅ := by
  apply AList.ext
  simpa [retain, List.filter_eq_nil_iff] using h

lemma size_retain_le (p : β → Bool) (m : Table α β) : size (retain p m) ≤ size m :=
  List.length_filter_le _ _

variable [DecidableEq α]

lemma lookup_retain {p : β → Bool} {m : Table α β} {k : α} {v : β} :
    (retain p m).lookup k = some v ↔ m.lookup k = some v ∧ p v := by
  have h₁ := AList.mem_lookup_iff (a := k) (b := v) (s := retain p m)
  have h₂ := AList.mem_lookup_iff (a := k) (b := v) (s := m)
  simp only [Option.mem_def] at h₁ h₂
  rw [h₁, h₂]
  simp [retain]

lemma lookup_retain_eq_none {p : β → Bool} {m : Table α β} {k : α} :
    (retain p m).lookup k = none ↔ ∀ v, m.lookup k = some v → ¬ p v := by
  rw [Option.eq_none_iff_forall_ne_some]
  constructor
  · intro h v hv hp
    exact h v (lookup_retain.mpr ⟨hv, hp⟩)
  · intro h v hv
    obtain ⟨hm, hp⟩ := lookup_retain.mp hv
    exact h v hm hp

lemma size_insert_of_none {m : Table α β} {k : α} (v : β) (h : m.lookup k = none) :
    size (m.insert k v) = size m + 1 := by
  have hk := AList.lookup_eq_none.mp h
  rw [size, AList.entries_insert_of_notMem hk]
  rfl

lemma size_insert_le (m : Table α β) (k : α) (v : β) : size (m.insert k v) ≤ size m + 1 := by
  rw [size, AList.entries_insert, List.length_cons]
  exact Nat.add_le_add_right (List.kerase_sublist k m.entries).length_le 1

/-- Every value held under some key satisfies the predicate. -/
def All (P : β → Prop) (m : Table α β) : Prop := ∀ k v, m.lookup k = some v → P v

lemma All.insert {P : β → Prop} {m : Table α β} (h : m.All P) {k : α} {v : β} (hv : P v) :
    Table.All P (m.insert k v) := by
  intro k' v' hk
  by_cases he : k' = k
  · subst he
    rw [AList.lookup_insert] at hk
    exact Option.some.inj hk ▸ hv
  · rw [AList.lookup_insert_ne he] at hk
    exact h k' v' hk

lemma All.mono {P Q : β → Prop} {m : Table α β} (h : m.All P) (hpq : ∀ v, P v → Q v) :
    m.All Q := fun k v hv => hpq v (h k v hv)

end Table

end PcRemote
