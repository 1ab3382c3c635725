import PcRemote.LockOrder

/-! Leaf locks: never taken under another lock, and no other lock is taken under them. Where one
function of a program breaks this, the executions that keep it are those of the program in which
that function does nothing. -/
namespace PcRemote.LockOrder
open Transition

section
variable {L : Type*}

/-- Of two locks, one held and the other one taken under it, neither is the leaf. -/
def LeafAllowed (leaf : L) (held : List L) (l : L) : Prop := ∀ k ∈ held, k = leaf ↔ l = leaf

/-- No thread is about to take the leaf under another lock, or another lock under the leaf. -/
def Leaf {T : Type*} (leaf : L) (s : T → ThreadState L) : Prop :=
  ∀ i l t, (s i).todo = .acquire l :: t → ∀ k ∈ (s i).held, k = leaf ↔ l = leaf

variable [DecidableEq L]

def enterLeaf (leaf : L) (held : List L) (l : L) : Option (List L) :=
  if held.all fun k => (k == leaf) == (l == leaf) then some (l :: held) else none

lemma enterLeaf_sound (leaf : L) : Sound (enterLeaf leaf) Eq (LeafAllowed leaf) := by
  have hentered : ∀ {a b : List L} {l : L}, enterLeaf leaf a l = some b →
      LeafAllowed leaf a l ∧ b = l :: a := by
    intro a b l h
    unfold enterLeaf at h
    split_ifs at h with hall
    refine ⟨fun k hk => ?_, (Option.some.inj h).symm⟩
    have hk := List.all_eq_true.mp hall k hk
    rw [beq_iff_eq, Bool.eq_iff_iff, beq_iff_eq, beq_iff_eq] at hk
    exact hk
  constructor
  · rintro a b l _ h rfl
    exact (hentered h).1
  · rintro a b l _ h rfl
    exact (hentered h).2

namespace Prog

/-- The program in which the calls of a function do nothing. -/
def skipping (f : Prog L) : Prog L → Prog L
  | .guard l p => .guard l (skipping f p)
  | .seq p q => .seq (skipping f p) (skipping f q)
  | .choice p q => .choice (skipping f p) (skipping f q)
  | .loop p => .loop (skipping f p)
  | .call p => if .call p = f then .skip else .call (skipping f p)
  | .skip => .skip
  | .ret => .ret
  | .next => .next
  | .stop => .stop

/-- Each call of a function is in the scope of a guard. -/
def callsUnder (f : Prog L) (l : L) : Prog L → Bool
  | .guard k p => k == l || callsUnder f l p
  | .seq p q | .choice p q => callsUnder f l p && callsUnder f l q
  | .loop p => callsUnder f l p
  | .call p => .call p ≠ f && callsUnder f l p
  | .skip | .ret | .next | .stop => true

end Prog

lemma callsUnder_guard {f p : Prog L} {k l : L} {held : List L}
    (h : f.callsUnder l (.guard k p) = true ∨ l ∈ held) :
    f.callsUnder l p = true ∨ l ∈ k :: held := by
  rcases h with hcalls | hmem
  · rw [Prog.callsUnder, Bool.or_eq_true, beq_iff_eq] at hcalls
    rcases hcalls with rfl | hcalls
    · exact .inr List.mem_cons_self
    · exact .inl hcalls
  · exact .inr (List.mem_cons_of_mem k hmem)

/-- An execution in which no call of the function can do anything that is allowed. -/
lemma Exec.skipping {allowed : List L → L → Prop} {f : Prog L} {l : L}
    (hf : ∀ {held t x}, l ∈ held → Exec f t x → Respects allowed held t → Exec .skip t x)
    {p : Prog L} {t : List (Event L)} {x : Exit} (h : Exec p t x) {held : List L}
    (hcalls : f.callsUnder l p = true ∨ l ∈ held) (ht : Respects allowed held t) :
    Exec (f.skipping p) t x := by
  induction h generalizing held with
  | skip => exact .skip
  | ret => exact .ret
  | next => exact .next
  | stop => exact .stop
  | panic p => exact .panic _
  | loopEnd => exact .loopEnd
  | @guard k p t x _ hx ih =>
    exact .guard (ih (callsUnder_guard hcalls) (respects_append.mp ht.2).1) hx
  | @guardStop k p t _ ih =>
    exact .guardStop (ih (callsUnder_guard hcalls) ht.2)
  | seq hp _ ihp ihq =>
    rw [respects_append, hp.after_eq (by decide)] at ht
    simp only [Prog.callsUnder, Bool.and_eq_true] at hcalls
    exact .seq (ihp (hcalls.imp_left And.left) ht.1) (ihq (hcalls.imp_left And.right) ht.2)
  | seqExit _ hx ih =>
    simp only [Prog.callsUnder, Bool.and_eq_true] at hcalls
    exact .seqExit (ih (hcalls.imp_left And.left) ht) hx
  | left _ ih =>
    simp only [Prog.callsUnder, Bool.and_eq_true] at hcalls
    exact .left (ih (hcalls.imp_left And.left) ht)
  | right _ ih =>
    simp only [Prog.callsUnder, Bool.and_eq_true] at hcalls
    exact .right (ih (hcalls.imp_left And.right) ht)
  | loopNext hp hx _ ihp ihrest =>
    rw [respects_append, hp.after_eq (by rcases hx with rfl | rfl <;> decide)] at ht
    exact .loopNext (ihp hcalls ht.1) hx (ihrest hcalls ht.2)
  | loopExit _ hx ih => exact .loopExit (ih hcalls ht) hx
  | @call p t x hexec ih =>
    rw [Prog.skipping]
    split
    next heq =>
      have hmem : l ∈ held := by
        simp only [Prog.callsUnder, heq, ne_eq, not_true_eq_false, decide_false,
          Bool.false_and, Bool.false_eq_true, false_or] at hcalls
        exact hcalls
      exact hf hmem (heq ▸ .call hexec) ht
    next hne =>
      simp only [Prog.callsUnder, hne, ne_eq, not_false_eq_true, decide_true,
        Bool.true_and] at hcalls
      exact .call (ih hcalls ht)

lemma respects_of_forall {allowed : List L → L → Prop} {held : List L} {t : List (Event L)}
    (h : ∀ u l v, t = u ++ .acquire l :: v → allowed (after held u) l) :
    Respects allowed held t := by
  induction t generalizing held with
  | nil => trivial
  | cons e t ih =>
    have hrest (u : List (Event L)) (l : L) (v : List (Event L)) (heq : t = u ++ .acquire l :: v) :
        allowed (after held (e :: u)) l := h (e :: u) l v (by rw [heq]; rfl)
    cases e with
    | acquire l => exact ⟨h [] l t rfl, ih hrest⟩
    | release l => exact ih hrest

variable {T : Type*} [DecidableEq T]

/-- A thread that never takes a lock that it holds can go on while the others hold nothing. -/
lemma lone_run {s : T → ThreadState L} {i : T} {held : List L} {u v : List (Event L)}
    (hi : s i = ⟨held, u ++ v⟩) (hothers : ∀ j, j ≠ i → (s j).held = [])
    (hfree : Respects (fun held l => l ∉ held) held u) :
    (threads T L).Run s (u.map (Prod.mk i)) (Function.update s i ⟨after held u, v⟩) := by
  induction u generalizing s held with
  | nil =>
    have hsame : Function.update s i ⟨held, v⟩ = s := by
      rw [Function.update_eq_self_iff, hi]
      rfl
    rw [after, hsame]
    exact .nil s
  | cons e u ih =>
    have hstill (x : ThreadState L) (j : T) (hj : j ≠ i) :
        (Function.update s i x j).held = [] := by
      rw [Function.update_of_ne hj]
      exact hothers j hj
    cases e with
    | acquire l =>
      have hstep : Step s (i, .acquire l) (Function.update s i ⟨l :: (s i).held, u ++ v⟩) := by
        apply Step.acquire (by rw [hi]; rfl)
        intro j
        by_cases hj : j = i
        · rw [hj, hi]
          exact hfree.1
        · rw [hothers j hj]
          exact List.not_mem_nil
      have hnow : Function.update s i ⟨l :: held, u ++ v⟩ i = ⟨l :: held, u ++ v⟩ :=
        Function.update_self ..
      have hrest := ih hnow (hstill _) hfree.2
      rw [Function.update_idem] at hrest
      rw [hi] at hstep
      exact .cons hstep hrest
    | release l =>
      have hstep : Step s (i, .release l) (Function.update s i ⟨(s i).held.erase l, u ++ v⟩) := by
        apply Step.release
        rw [hi]
        rfl
      have hnow : Function.update s i ⟨held.erase l, u ++ v⟩ i = ⟨held.erase l, u ++ v⟩ :=
        Function.update_self ..
      have hrest := ih hnow (hstill _) hfree
      rw [Function.update_idem] at hrest
      rw [hi] at hstep
      exact .cons hstep hrest

/-- The leaf is a leaf in every state of every interleaving just where each thread keeps to it. -/
theorem leaf_iff {traces : T → List (Event L)} {leaf : L}
    (hfree : ∀ i, Respects (fun held l => l ∉ held) [] (traces i)) :
    (∀ es s, (threads T L).Run (start traces) es s → Leaf leaf s) ↔
      ∀ i, Respects (LeafAllowed leaf) [] (traces i) := by
  constructor
  · intro h i
    apply respects_of_forall
    intro u l v htrace
    have hprefixFree : Respects (fun held l => l ∉ held) [] u := by
      have hi := hfree i
      rw [htrace] at hi
      exact (respects_append.mp hi).1
    have hstart : start traces i = ⟨[], u ++ .acquire l :: v⟩ := by rw [start, htrace]
    have hrun := lone_run hstart (fun j _ => rfl) hprefixFree
    have hleaf := h _ _ hrun i l v
    rw [Function.update_self] at hleaf
    exact hleaf rfl
  · intro h es s hrun i l t htodo
    have hi := allRespect_run hrun h i
    rw [htodo] at hi
    exact hi.1

end

end PcRemote.LockOrder
